import TimingBoard.Source.Tail
import TimingBoard.Aggregate.Basic

namespace TimingBoard.Ingestion

/-! Taking in several topics at once.

Each feed reads its topic's file line by line and passes trees on through one bounded channel; a
single collector folds them into the aggregate.  Producers append to the files and a shutdown may
be sent at any time.  Whatever can happen next is a step. -/

def capacity : Nat := 64

structure Feed where
  tail : Tail
  /-- How many bytes of the file have been read. -/
  position : Nat
  /-- Trees read but not passed on. -/
  held : List TimingTree
  live : Bool

structure State where
  files : String → List UInt8
  feeds : List Feed
  /-- Trees with the place of the feed they come from, first one first. -/
  channel : List (Nat × TimingTree)
  aggregate : Aggregate
  collecting : Bool
  stopping : Bool

namespace State

/-- Files and an aggregate, and nobody who reads or collects. -/
def idle (files : String → List UInt8) (aggregate : Aggregate) : State :=
  { files, feeds := [], channel := [], aggregate, collecting := false, stopping := false }

def append (state : State) (topic : String) (bytes : List UInt8) : State :=
  { state with
    files := fun other => if other = topic then state.files other ++ bytes else state.files other }

def setFeed (state : State) (place : Nat) (feed : Feed) : State :=
  { state with feeds := state.feeds.set place feed }

end State

def newFeed (topic : String) : Feed := ⟨⟨topic, []⟩, 0, [], true⟩

def Feed.read (feed : Feed) (bytes : List UInt8) : Feed :=
  { feed with
    tail := (feed.tail.read bytes).2
    position := feed.position + bytes.length
    held := (feed.tail.read bytes).1.filterMap Delivery.tree? }

/-- A feed for every topic, none of them running yet.  The first topic that cannot be subscribed to
is the error. -/
def prepare (subscribe : String → Except Error Unit) : List String → Except Error (List Feed)
  | [] => .ok []
  | topic :: rest => do
      subscribe topic
      let feeds ← prepare subscribe rest
      pure (newFeed topic :: feeds)

/-- Subscribes to every topic before anything runs.  When that fails, what was prepared is dropped
and nothing ever runs. -/
def start (subscribe : String → Except Error Unit) (topics : List String) (state : State) :
    Except Error Unit × State :=
  match prepare subscribe topics with
  | .ok feeds => (.ok (), { state with feeds, collecting := true })
  | .error error => (.error error, state)

inductive Step : State → State → Prop where
  | append (state : State) (topic : String) (bytes : List UInt8) :
      Step state (state.append topic bytes)
  /-- A feed with nothing to pass on reads on, at most to the end of a line. -/
  | read (state : State) (place : Nat) (feed : Feed) (bytes : List UInt8)
      (found : state.feeds[place]? = some feed) (live : feed.live = true) (free : feed.held = [])
      (available : bytes <+: (state.files feed.tail.topic).drop feed.position)
      (line : Tail.newline ∉ bytes.dropLast) :
      Step state (state.setFeed place (feed.read bytes))
  /-- A feed passes a tree on if there is room. -/
  | pass (state : State) (place : Nat) (feed : Feed) (tree : TimingTree) (rest : List TimingTree)
      (found : state.feeds[place]? = some feed) (live : feed.live = true)
      (held : feed.held = tree :: rest) (collecting : state.collecting = true)
      (room : state.channel.length < capacity) :
      Step state
        { state.setFeed place { feed with held := rest } with
          channel := state.channel ++ [(place, tree)] }
  /-- Nobody takes the tree any more. -/
  | refuse (state : State) (place : Nat) (feed : Feed) (found : state.feeds[place]? = some feed)
      (live : feed.live = true) (held : feed.held ≠ []) (gone : state.collecting = false) :
      Step state (state.setFeed place { feed with live := false })
  | collect (state : State) (time : Int) (place : Nat) (tree : TimingTree)
      (rest : List (Nat × TimingTree)) (collecting : state.collecting = true)
      (first : state.channel = (place, tree) :: rest) :
      Step state { state with channel := rest, aggregate := state.aggregate.apply time tree }
  | shutDown (state : State) : Step state { state with stopping := true }
  /-- A feed ends at a shutdown, or because its file cannot be read. -/
  | endFeed (state : State) (place : Nat) (feed : Feed) (found : state.feeds[place]? = some feed) :
      Step state (state.setFeed place { feed with live := false })
  /-- Whatever is still in the channel is dropped with it. -/
  | endCollecting (state : State) (stopping : state.stopping = true) :
      Step state { state with channel := [], collecting := false }

inductive Reachable (initial : State) : State → Prop where
  | start : Reachable initial initial
  | step {before after : State} (earlier : Reachable initial before) (step : Step before after) :
      Reachable initial after

/-- What every step keeps holds in every reachable state. -/
theorem Reachable.keeps {initial state : State} {invariant : State → Prop}
    (reachable : Reachable initial state) (first : invariant initial)
    (kept : ∀ before after, Step before after → invariant before → invariant after) :
    invariant state := by
  induction reachable with
  | start => exact first
  | step _ step ih => exact kept _ _ step ih

end TimingBoard.Ingestion
