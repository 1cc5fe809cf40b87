import TimingBoard.Proofs.Aggregate.Arrivals
import TimingBoard.Proofs.Source.Tail
import TimingBoard.Source.Ingestion

namespace TimingBoard

/-! Nothing is lost, repeated or reordered within a topic, whatever the scheduling.

Each feed has read some first part of its file.  As long as the collector runs, the trees in that
part are the ones applied, then the ones in the channel, then the ones the feed still holds.  Every
step keeps this account; when the channel is dropped only its first part is left of it. -/

/-- The trees in the complete lines of some bytes. -/
def Tail.treesIn (bytes : List UInt8) : List TimingTree := (linesOf bytes).filterMap treeOf?

theorem Tail.treesIn_append (bytes more : List UInt8) :
    treesIn (bytes ++ more) = treesIn bytes ++ treesIn (openLine bytes ++ more) := by
  rw [treesIn, (linesOf_append bytes more).1, List.filterMap_append, treesIn, treesIn]

theorem Tail.treesIn_mono {bytes whole : List UInt8} (start : bytes <+: whole) :
    treesIn bytes <+: treesIn whole := by
  obtain ⟨more, rfl⟩ := start
  exact ⟨_, (treesIn_append bytes more).symm⟩

theorem Tail.read_topic (tail : Tail) (bytes : List UInt8) :
    (tail.read bytes).2.topic = tail.topic := by
  unfold read
  split
  · rfl
  · dsimp only
    split <;> rfl

namespace Ingestion

open Tail (openLine treesIn treesIn_append treesIn_mono)

/-- The trees that come from the feed at a place, in their order. -/
def treesFrom (place : Nat) (sent : List (Nat × TimingTree)) : List TimingTree :=
  (sent.filter (·.1 = place)).map (·.2)

@[simp]
theorem treesFrom_nil (place : Nat) : treesFrom place [] = [] := rfl

@[simp]
theorem treesFrom_append (place : Nat) (before after : List (Nat × TimingTree)) :
    treesFrom place (before ++ after) = treesFrom place before ++ treesFrom place after := by
  simp [treesFrom]

theorem treesFrom_cons (place other : Nat) (tree : TimingTree) (rest : List (Nat × TimingTree)) :
    treesFrom place ((other, tree) :: rest) =
      if other = place then tree :: treesFrom place rest else treesFrom place rest := by
  by_cases same : other = place <;> simp [treesFrom, same]

/-- A tree that was applied: the place of its feed, and its arrival. -/
abbrev Applied := Nat × Arrival

def Applied.sent (applied : List Applied) : List (Nat × TimingTree) :=
  applied.map fun (place, arrival) => (place, arrival.tree)

/-- What a feed has done with its file: the trees in the bytes it has read are the ones that have
left it, then the ones it holds. -/
structure Feed.Accounts (feed : Feed) (content : List UInt8) (left : List TimingTree)
    (collecting : Bool) (seen : List UInt8) : Prop where
  read : seen <+: content
  position : feed.position = seen.length
  pending : feed.tail.pending = openLine seen
  ordered : left <+: treesIn seen
  /-- Once nobody collects, trees get lost after those that have left. -/
  complete : collecting = true → left ++ feed.held = treesIn seen

namespace Feed.Accounts

variable {feed : Feed} {content seen : List UInt8} {left : List TimingTree} {collecting : Bool}

theorem newFeed (topic : String) (content : List UInt8) (collecting : Bool) :
    (newFeed topic).Accounts content [] collecting [] where
  read := List.nil_prefix
  position := rfl
  pending := rfl
  ordered := List.nil_prefix
  complete := fun _ => rfl

theorem append (accounts : feed.Accounts content left collecting seen) (bytes : List UInt8) :
    feed.Accounts (content ++ bytes) left collecting seen :=
  { accounts with read := accounts.read.trans (List.prefix_append content bytes) }

/-- The bytes that a feed reads come right after those it has read. -/
theorem seen_append (accounts : feed.Accounts content left collecting seen) {bytes : List UInt8}
    (available : bytes <+: content.drop feed.position) : seen ++ bytes <+: content := by
  obtain ⟨rest, rfl⟩ := accounts.read
  rw [accounts.position, List.drop_left] at available
  exact (List.prefix_append_right_inj seen).mpr available

theorem feed_read (accounts : feed.Accounts content left collecting seen) {bytes : List UInt8}
    (free : feed.held = []) (available : bytes <+: content.drop feed.position)
    (line : Tail.newline ∉ bytes.dropLast) :
    (feed.read bytes).Accounts content left collecting (seen ++ bytes) := by
  have unended : Tail.newline ∉ feed.tail.pending :=
    accounts.pending ▸ (Tail.linesOf_joined seen).2.1
  have read := Tail.read_eq feed.tail.topic unended line
  have held : (feed.read bytes).held = treesIn (openLine seen ++ bytes) := by
    rw [Feed.read, read, Tail.trees_flatMap_ofLine, accounts.pending, treesIn]
  exact
    { read := accounts.seen_append available
      position := by rw [Feed.read, accounts.position, List.length_append]
      pending := by rw [Feed.read, read, accounts.pending, (Tail.linesOf_append seen bytes).2]
      ordered := accounts.ordered.trans (treesIn_mono (List.prefix_append seen bytes))
      complete := by
        intro still
        have all : left = treesIn seen := by simpa [free] using accounts.complete still
        rw [held, treesIn_append seen, all] }

theorem pass (accounts : feed.Accounts content left true seen) {tree : TimingTree}
    {rest : List TimingTree} (held : feed.held = tree :: rest) :
    { feed with held := rest : Feed }.Accounts content (left ++ [tree]) true seen := by
  have all : (left ++ [tree]) ++ rest = treesIn seen := by
    rw [← accounts.complete rfl, held, List.append_assoc, List.singleton_append]
  exact { accounts with ordered := ⟨rest, all⟩, complete := fun _ => all }

theorem endFeed (accounts : feed.Accounts content left collecting seen) :
    { feed with live := false : Feed }.Accounts content left collecting seen :=
  { accounts with }

/-- Without a collector the trees in the channel are lost. -/
theorem drop (accounts : feed.Accounts content left collecting seen) {fewer : List TimingTree}
    (some : fewer <+: left) : feed.Accounts content fewer false seen :=
  { accounts with ordered := some.trans accounts.ordered, complete := nofun }

end Feed.Accounts

variable {topics : List String} {initial : Aggregate} {state : State} {applied : List Applied}

/-- The account of a state: what was applied makes the aggregate, and each feed accounts for what it
has read. -/
structure Ledger (topics : List String) (initial : Aggregate) (state : State)
    (applied : List Applied) : Prop where
  subscribed : state.feeds.map (·.tail.topic) = topics
  aggregate : state.aggregate = initial.takeAll (applied.map (·.2))
  places : ∀ sent ∈ Applied.sent applied ++ state.channel, sent.1 < topics.length
  room : state.channel.length ≤ capacity
  feeds : ∀ (place : Nat) (feed : Feed), state.feeds[place]? = some feed →
    ∃ seen, feed.Accounts (state.files feed.tail.topic)
      (treesFrom place (Applied.sent applied) ++ treesFrom place state.channel) state.collecting seen

/-- What holds of all feeds holds after one of them has changed, if it holds of the changed one. -/
theorem State.forall_setFeed {property : Nat → Feed → Prop} {place : Nat} {feed : Feed}
    (others : ∀ other found, state.feeds[other]? = some found → other ≠ place → property other found)
    (own : property place feed) :
    ∀ other found, (state.setFeed place feed).feeds[other]? = some found → property other found := by
  intro other found present
  rw [State.setFeed, List.getElem?_set] at present
  by_cases same : place = other
  · subst same
    rw [if_pos rfl] at present
    split at present
    · cases present
      exact own
    · contradiction
  · rw [if_neg same] at present
    exact others other found present (Ne.symm same)

namespace Ledger

theorem subscribed_setFeed (ledger : Ledger topics initial state applied) {place : Nat}
    {before after : Feed} (found : state.feeds[place]? = some before)
    (same : after.tail.topic = before.tail.topic) :
    (state.setFeed place after).feeds.map (·.tail.topic) = topics := by
  have kept : (state.feeds.map (·.tail.topic))[place]? = some before.tail.topic := by
    rw [List.getElem?_map, found, Option.map_some]
  obtain ⟨within, there⟩ := List.getElem?_eq_some_iff.mp kept
  rw [State.setFeed, List.map_set, same, ← there, List.set_getElem_self, ledger.subscribed]

theorem place_lt (ledger : Ledger topics initial state applied) {place : Nat} {feed : Feed}
    (found : state.feeds[place]? = some feed) : place < topics.length := by
  rw [← ledger.subscribed, List.length_map]
  exact (List.getElem?_eq_some_iff.mp found).1

theorem append (ledger : Ledger topics initial state applied) (topic : String)
    (bytes : List UInt8) : Ledger topics initial (state.append topic bytes) applied :=
  { ledger with
    feeds := by
      intro place feed found
      obtain ⟨seen, accounts⟩ := ledger.feeds place feed found
      refine ⟨seen, ?_⟩
      by_cases own : feed.tail.topic = topic
      · simpa [State.append, own] using accounts.append bytes
      · simpa [State.append, own] using accounts }

/-- A feed changes, but no tree leaves it. -/
theorem setFeed (ledger : Ledger topics initial state applied) {place : Nat} {before after : Feed}
    (found : state.feeds[place]? = some before) (same : after.tail.topic = before.tail.topic)
    (kept : ∀ left seen,
      before.Accounts (state.files before.tail.topic) left state.collecting seen →
        ∃ more, after.Accounts (state.files before.tail.topic) left state.collecting more) :
    Ledger topics initial (state.setFeed place after) applied :=
  { ledger with
    subscribed := ledger.subscribed_setFeed found same
    feeds := by
      refine State.forall_setFeed (fun other feed present _ => ledger.feeds other feed present) ?_
      obtain ⟨seen, accounts⟩ := ledger.feeds place before found
      rw [same]
      exact kept _ seen accounts }

theorem feed_read (ledger : Ledger topics initial state applied) {place : Nat} {feed : Feed}
    {bytes : List UInt8} (found : state.feeds[place]? = some feed) (free : feed.held = [])
    (available : bytes <+: (state.files feed.tail.topic).drop feed.position)
    (line : Tail.newline ∉ bytes.dropLast) :
    Ledger topics initial (state.setFeed place (feed.read bytes)) applied := by
  refine ledger.setFeed found (Tail.read_topic feed.tail bytes) fun left seen accounts => ?_
  exact ⟨seen ++ bytes, accounts.feed_read free available line⟩

theorem pass (ledger : Ledger topics initial state applied) {place : Nat} {feed : Feed}
    {tree : TimingTree} {rest : List TimingTree} (found : state.feeds[place]? = some feed)
    (held : feed.held = tree :: rest) (collecting : state.collecting = true)
    (room : state.channel.length < capacity) :
    Ledger topics initial
      { state.setFeed place { feed with held := rest } with
        channel := state.channel ++ [(place, tree)] } applied where
  subscribed := ledger.subscribed_setFeed found rfl
  aggregate := ledger.aggregate
  places := by
    rw [← List.append_assoc]
    refine List.forall_mem_append.mpr ⟨ledger.places, ?_⟩
    exact List.forall_mem_singleton.mpr (ledger.place_lt found)
  room := by
    rw [List.length_append]
    exact room
  feeds := by
    refine State.forall_setFeed (fun other known present different => ?_) ?_
    · obtain ⟨seen, accounts⟩ := ledger.feeds other known present
      refine ⟨seen, ?_⟩
      simpa [treesFrom_cons, State.setFeed, Ne.symm different] using accounts
    · obtain ⟨seen, accounts⟩ := ledger.feeds place feed found
      rw [collecting] at accounts
      refine ⟨seen, ?_⟩
      have passed := accounts.pass held
      simpa [treesFrom_cons, State.setFeed, collecting] using passed

theorem collect (ledger : Ledger topics initial state applied) (time : Int) {place : Nat}
    {tree : TimingTree} {rest : List (Nat × TimingTree)}
    (first : state.channel = (place, tree) :: rest) :
    Ledger topics initial
      { state with channel := rest, aggregate := state.aggregate.apply time tree }
      (applied ++ [(place, ⟨time, tree⟩)]) := by
  -- The tree moves from the front of the channel to the end of what was applied.
  have moved : Applied.sent (applied ++ [(place, ⟨time, tree⟩)]) ++ rest =
      Applied.sent applied ++ state.channel := by
    simp [Applied.sent, first]
  exact
    { subscribed := ledger.subscribed
      aggregate := by
        rw [List.map_append, List.map_singleton, Aggregate.takeAll_append_singleton, ledger.aggregate]
      places := moved ▸ ledger.places
      room := by
        have full := ledger.room
        rw [first, List.length_cons] at full
        exact Nat.le_of_succ_le full
      feeds := by
        intro other feed found
        rw [← treesFrom_append, moved, treesFrom_append]
        exact ledger.feeds other feed found }

theorem endCollecting (ledger : Ledger topics initial state applied) :
    Ledger topics initial { state with channel := [], collecting := false } applied where
  subscribed := ledger.subscribed
  aggregate := ledger.aggregate
  places := by
    rw [List.append_nil]
    exact (List.forall_mem_append.mp ledger.places).1
  room := Nat.zero_le capacity
  feeds := by
    intro place feed found
    obtain ⟨seen, accounts⟩ := ledger.feeds place feed found
    rw [treesFrom_nil, List.append_nil]
    exact ⟨seen, accounts.drop (List.prefix_append _ _)⟩

/-- Every step keeps the account, with at most one more tree applied. -/
theorem step (ledger : Ledger topics initial state applied) {after : State} (step : Step state after) :
    ∃ applied, Ledger topics initial after applied := by
  cases step with
  | append topic bytes => exact ⟨applied, ledger.append topic bytes⟩
  | read place feed bytes found live free available line =>
      exact ⟨applied, ledger.feed_read found free available line⟩
  | pass place feed tree rest found live held collecting room =>
      exact ⟨applied, ledger.pass found held collecting room⟩
  | refuse place feed found live held gone =>
      exact ⟨applied, ledger.setFeed found rfl fun _ seen accounts => ⟨seen, accounts.endFeed⟩⟩
  | collect time place tree rest collecting first =>
      exact ⟨applied ++ [(place, ⟨time, tree⟩)], ledger.collect time first⟩
  | shutDown => exact ⟨applied, { ledger with }⟩
  | endFeed place feed found =>
      exact ⟨applied, ledger.setFeed found rfl fun _ seen accounts => ⟨seen, accounts.endFeed⟩⟩
  | endCollecting stopping => exact ⟨applied, ledger.endCollecting⟩

/-- What the account of a feed says of the whole file of its topic. -/
theorem from_file (ledger : Ledger topics initial state applied) {place : Nat} {topic : String}
    (listed : topics[place]? = some topic) :
    treesFrom place (Applied.sent applied) ++ treesFrom place state.channel <+:
      treesIn (state.files topic) := by
  rw [← ledger.subscribed, List.getElem?_map] at listed
  obtain ⟨feed, found, rfl⟩ := Option.map_eq_some_iff.mp listed
  obtain ⟨seen, accounts⟩ := ledger.feeds place feed found
  exact accounts.ordered.trans (treesIn_mono accounts.read)

end Ledger

section Start

variable {subscribe : String → Except Error Unit} {files : String → List UInt8}

theorem prepare_ok (all : ∀ topic ∈ topics, subscribe topic = .ok ()) :
    prepare subscribe topics = .ok (topics.map newFeed) := by
  induction topics with
  | nil => rfl
  | cons topic rest ih =>
      obtain ⟨first, others⟩ := List.forall_mem_cons.mp all
      rw [prepare, first, ih others]
      rfl

theorem prepare_error {before after : List String} {topic : String} {error : Error}
    (earlier : ∀ known ∈ before, subscribe known = .ok ()) (failed : subscribe topic = .error error) :
    prepare subscribe (before ++ topic :: after) = .error error := by
  induction before with
  | nil =>
      rw [List.nil_append, prepare, failed]
      rfl
  | cons known rest ih =>
      obtain ⟨first, others⟩ := List.forall_mem_cons.mp earlier
      rw [List.cons_append, prepare, first, ih others]
      rfl

/-- Either every topic can be subscribed to, or there is a first one that cannot. -/
theorem subscribable_or_first (subscribe : String → Except Error Unit) (topics : List String) :
    (∀ topic ∈ topics, subscribe topic = .ok ()) ∨
      ∃ before topic after error, topics = before ++ topic :: after ∧
        (∀ earlier ∈ before, subscribe earlier = .ok ()) ∧ subscribe topic = .error error := by
  induction topics with
  | nil => exact .inl nofun
  | cons topic rest ih =>
      cases answer : subscribe topic with
      | error error => exact .inr ⟨[], topic, rest, error, rfl, nofun, answer⟩
      | ok =>
          rcases ih with all | ⟨before, other, after, error, rfl, earlier, failed⟩
          · exact .inl (List.forall_mem_cons.mpr ⟨answer, all⟩)
          · exact .inr ⟨topic :: before, other, after, error, rfl,
              List.forall_mem_cons.mpr ⟨answer, earlier⟩, failed⟩

theorem ledger_started (topics : List String) (files : String → List UInt8) (aggregate : Aggregate) :
    Ledger topics aggregate
      { State.idle files aggregate with feeds := topics.map newFeed, collecting := true } [] where
  subscribed := by
    rw [List.map_map]
    exact List.map_id topics
  aggregate := rfl
  places := nofun
  room := Nat.zero_le capacity
  feeds := by
    intro place feed found
    obtain ⟨topic, -, rfl⟩ := List.mem_map.mp (List.mem_of_getElem? found)
    exact ⟨[], .newFeed topic _ true⟩

/-- Nobody reads, passes on or collects. -/
structure Inert (initial : Aggregate) (state : State) : Prop where
  unfed : state.feeds = []
  empty : state.channel = []
  aggregate : state.aggregate = initial

theorem Inert.step {after : State} (inert : Inert initial state) (step : Step state after) :
    Inert initial after := by
  have absent {place : Nat} {feed : Feed} (found : state.feeds[place]? = some feed) : False := by
    rw [inert.unfed] at found
    contradiction
  cases step with
  | append => exact { inert with }
  | read _ _ _ found => exact (absent found).elim
  | pass _ _ _ _ found => exact (absent found).elim
  | refuse _ _ found => exact (absent found).elim
  | collect time place tree rest collecting first =>
      rw [inert.empty] at first
      contradiction
  | shutDown => exact { inert with }
  | endFeed _ _ found => exact (absent found).elim
  | endCollecting => exact { inert with empty := rfl }

theorem reachable_ledger (all : ∀ topic ∈ topics, subscribe topic = .ok ()) {aggregate : Aggregate}
    (reachable : Reachable (start subscribe topics (.idle files aggregate)).2 state) :
    ∃ applied, Ledger topics aggregate state applied := by
  rw [start, prepare_ok all] at reachable
  have kept (before after : State) (step : Step before after)
      (balanced : ∃ applied, Ledger topics aggregate before applied) :
      ∃ applied, Ledger topics aggregate after applied := by
    obtain ⟨applied, ledger⟩ := balanced
    exact ledger.step step
  exact reachable.keeps ⟨[], ledger_started topics files aggregate⟩ kept

theorem reachable_inert {aggregate : Aggregate} {error : Error}
    (failed : prepare subscribe topics = .error error)
    (reachable : Reachable (start subscribe topics (.idle files aggregate)).2 state) :
    Inert aggregate state := by
  rw [start, failed] at reachable
  exact reachable.keeps ⟨rfl, rfl, rfl⟩ fun _ _ step inert => inert.step step

/-- However feeds, producers, the collector and a shutdown take turns, the aggregate is the fold of
trees that came from the topics: of each topic a first part of the trees in its file, in their order,
with what is in the channel right behind it.  A topic that cannot be subscribed to is the error of
the start, the first one if there are several, and then the aggregate stays as it was. -/
theorem reachable_folds {aggregate : Aggregate}
    (reachable : Reachable (start subscribe topics (.idle files aggregate)).2 state) :
    (∃ applied : List Applied, state.aggregate = aggregate.takeAll (applied.map (·.2)) ∧
        (∀ sent ∈ Applied.sent applied ++ state.channel, sent.1 < topics.length) ∧
        ∀ place topic, topics[place]? = some topic →
          treesFrom place (Applied.sent applied) ++ treesFrom place state.channel <+:
            treesIn (state.files topic)) ∧
      state.channel.length ≤ capacity ∧
      ((∃ topic ∈ topics, ∃ error, subscribe topic = .error error) →
        ∃ before topic after error, topics = before ++ topic :: after ∧
          (∀ earlier ∈ before, subscribe earlier = .ok ()) ∧ subscribe topic = .error error ∧
          (start subscribe topics (.idle files aggregate)).1 = .error error ∧
          state.aggregate = aggregate) ∧
      ((∀ topic ∈ topics, subscribe topic = .ok ()) →
        (start subscribe topics (.idle files aggregate)).1 = .ok () ∧
          state.feeds.map (·.tail.topic) = topics) := by
  rcases subscribable_or_first subscribe topics with all | ⟨before, topic, after, error, same, earlier, failed⟩
  · obtain ⟨applied, ledger⟩ := reachable_ledger all reachable
    refine ⟨⟨applied, ledger.aggregate, ledger.places, fun _ _ => ledger.from_file⟩, ledger.room, ?_, ?_⟩
    · rintro ⟨topic, member, error, failed⟩
      rw [all topic member] at failed
      contradiction
    · intro _
      refine ⟨?_, ledger.subscribed⟩
      rw [start, prepare_ok all]
  · have unprepared : prepare subscribe topics = .error error := same ▸ prepare_error earlier failed
    have inert := reachable_inert unprepared reachable
    refine ⟨⟨[], inert.aggregate, ?_, ?_⟩, ?_, ?_, ?_⟩
    · rw [inert.empty]
      exact nofun
    · intro place topic _
      rw [inert.empty]
      exact List.nil_prefix
    · rw [inert.empty]
      exact Nat.zero_le capacity
    · intro _
      refine ⟨before, topic, after, error, same, earlier, failed, ?_, inert.aggregate⟩
      rw [start, unprepared]
    · intro all
      have member : topic ∈ topics := same ▸ List.mem_append_right before List.mem_cons_self
      rw [all topic member] at failed
      contradiction

end Start

/-- A message of one node that took no time. -/
def shortMessage : String := "\x7b\"nodes\":[\x7b\"id\":1,\"name\":\"p\",\"processing_time\":0\x7d]\x7d"

def shortTree : TimingTree := ⟨"p", "p", .zero, none, []⟩

def shortLine : List UInt8 := Utf8.encode (shortMessage ++ "\n")

theorem treeOf?_shortLine : Tail.treeOf? shortLine = some shortTree := by
  have trimmed : Text.trim (shortMessage ++ "\n") = shortMessage := by decide +kernel
  have read : (Message.ofJson shortMessage).toOption = some ⟨[⟨1, "p", .zero, 0, ""⟩]⟩ := by
    decide +kernel
  have tree : (readLine shortMessage).result = .ok shortTree := by
    cases decoded : Message.ofJson shortMessage with
    | error failure => rw [decoded] at read; contradiction
    | ok message =>
        rw [decoded] at read
        cases read
        rw [readLine, decoded]
        rfl
  have text : shortMessage ≠ "" := by decide
  rw [Tail.treeOf?, shortLine, Utf8.decode?_encode, Option.bind_some, trimmed, if_neg text, tree]
  rfl

theorem held_read_shortLine (topic : String) :
    ((newFeed topic).read shortLine).held = [shortTree] := by
  have single : Tail.newline ∉ shortLine.dropLast := by decide +kernel
  have whole : Tail.linesOf shortLine = [shortLine] := by decide +kernel
  rw [Feed.read, newFeed, Tail.read_eq topic List.not_mem_nil single, List.nil_append, whole,
    Tail.trees_flatMap_ofLine, List.filterMap_cons, treeOf?_shortLine]
  rfl

/-- Two topics with a line each: both trees are passed on, and one is collected although a shutdown
has been sent. -/
theorem reachable_folds_twoTopics :
    ∃ state, Reachable (start (fun _ => .ok ()) ["p", "q"] (.idle (fun _ => shortLine) (.new true))).2
        state ∧
      state.channel = [(0, shortTree)] ∧ state.aggregate = (Aggregate.new true).apply 7 shortTree ∧
      ∃ applied : List Applied, state.aggregate = (Aggregate.new true).takeAll (applied.map (·.2)) ∧
        (∀ sent ∈ Applied.sent applied ++ state.channel, sent.1 < 2) ∧
        ∀ place topic, ["p", "q"][place]? = some topic →
          treesFrom place (Applied.sent applied) ++ treesFrom place state.channel <+:
            treesIn (state.files topic) := by
  have single : Tail.newline ∉ shortLine.dropLast := by decide +kernel
  have readP := Reachable.start.step (.read
    (start (fun _ => .ok ()) ["p", "q"] (.idle (fun _ => shortLine) (.new true))).2
    0 (newFeed "p") shortLine rfl rfl rfl (List.prefix_refl _) single)
  have readQ := readP.step (.read _ 1 (newFeed "q") shortLine rfl rfl rfl (List.prefix_refl _) single)
  have passQ := readQ.step (.pass _ 1 _ shortTree [] rfl rfl (held_read_shortLine "q") rfl (by decide))
  have passP := passQ.step (.pass _ 0 _ shortTree [] rfl rfl (held_read_shortLine "p") rfl (by decide))
  have collected := (passP.step (.shutDown _)).step (.collect _ 7 1 shortTree _ rfl rfl)
  exact ⟨_, collected, rfl, rfl, (reachable_folds collected).1⟩

end Ingestion

end TimingBoard
