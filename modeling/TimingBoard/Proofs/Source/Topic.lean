import Mathlib.Data.List.Nodup
import TimingBoard.Proofs.Source.Path
import TimingBoard.Proofs.Text.Order
import TimingBoard.Source.Topic

namespace TimingBoard.Topic

/-! Topics that are discovered and topics that can be subscribed to.

Splitting a file name at its last dot undoes how the name of a topic's file is made, on every name that
a file can have.  So a discovered topic is the topic of a file that subscribing finds, as long as the
path of the file can be followed.  Whether the file may be read is seen only after that. -/

theorem fileName_eq (topic : String) :
    fileName topic = Utf8.encode topic ++ dot :: Utf8.encode extension := by
  simp [fileName, Utf8.encode, String.toList_append, dot]
  rfl

theorem length_fileName (topic : String) :
    (fileName topic).length = (Utf8.encode topic).length + 6 := by
  rw [fileName_eq, List.length_append]
  rfl

theorem fileName_ne_nil (topic : String) : fileName topic ≠ [] := by
  intro empty
  have length := length_fileName topic
  simp [empty] at length

theorem isDots_fileName (topic : String) : isDots (fileName topic) = false := by
  have length := length_fileName topic
  rw [isDots, Bool.or_eq_false_iff, beq_eq_false_iff_ne, beq_eq_false_iff_ne]
  constructor <;> intro same <;> simp [same] at length

theorem slash_not_mem_fileName {topic : String} (unslashed : '/' ∉ topic.toList) :
    slash ∉ fileName topic := by
  intro member
  rw [fileName_eq] at member
  rcases List.mem_append.mp member with inside | behind
  · exact unslashed (Utf8.mem_toList_of_mem_encode (by decide) (by decide) inside)
  · exact absurd behind (by decide)

theorem encode_eq_nil_iff {text : String} : Utf8.encode text = [] ↔ text = "" :=
  ⟨fun same => Utf8.encode_injective same, fun same => same ▸ rfl⟩

theorem ofFileName?_eq_some_iff {name : FileName} {topic : String} :
    ofFileName? name = some topic ↔ topic ≠ "" ∧ name = fileName topic := by
  have undotted : dot ∉ Utf8.encode extension := by decide
  rw [ofFileName?]
  constructor
  · intro carried
    split at carried
    case h_1 stem ending split =>
      obtain ⟨whole, nonempty, -, -⟩ := splitName_eq_some_iff.mp split
      split at carried
      · rename_i same
        obtain rfl := Utf8.eq_encode_of_decode? carried
        exact ⟨fun empty => nonempty (encode_eq_nil_iff.mpr empty), by rw [whole, same, fileName_eq]⟩
      · cases carried
    case h_2 => cases carried
  · rintro ⟨nonempty, rfl⟩
    have undots := isDots_fileName topic
    rw [isDots, Bool.or_eq_false_iff, beq_eq_false_iff_ne, beq_eq_false_iff_ne] at undots
    have split : splitName (fileName topic) = (Utf8.encode topic, some (Utf8.encode extension)) :=
      splitName_eq_some_iff.mpr
        ⟨fileName_eq topic, fun empty => nonempty (encode_eq_nil_iff.mp empty), undotted, undots.2⟩
    rw [split]
    dsimp only
    rw [if_pos rfl, Utf8.decode?_encode]

section Directory

variable {files : FileSystem} {directory : List UInt8} {place : Visit} {access : Access}
  {entries : List (FileName × Node)} {topic : String}
  (found : files.locate directory = .ok place) (inside : place.node = .directory access entries)
  (listing : Listing entries)
include found inside listing

theorem locate_entry_iff {name : FileName} (named : name ≠ []) (undotted : isDots name = false)
    (unslashed : slash ∉ name) {visit : Visit} :
    files.locate (joinPath directory name) = .ok visit ↔
      ¬OutOfReach directory access name ∧
        ∃ node, (name, node) ∈ entries ∧ place.below name node = visit := by
  rw [FileSystem.locate_joinPath_eq_ok_iff found inside named undotted unslashed,
    Visit.child?_eq_some_iff inside listing]
  constructor
  · rintro ⟨-, -, reached, entry⟩
    exact ⟨reached, entry⟩
  · rintro ⟨reached, node, member, same⟩
    have name := listing.named _ member
    exact ⟨name.nonzero, name.fits, reached, node, member, same⟩

theorem locate_path_iff (unslashed : slash ∉ fileName topic) {visit : Visit} :
    files.locate (path directory topic) = .ok visit ↔
      ¬OutOfReach directory access (fileName topic) ∧
        ∃ node, (fileName topic, node) ∈ entries ∧ place.below (fileName topic) node = visit :=
  locate_entry_iff found inside listing (fileName_ne_nil topic) (isDots_fileName topic) unslashed

theorem listed?_eq_some_iff {name : FileName} {node : Node} (member : (name, node) ∈ entries) :
    listed? files directory name = some topic ↔
      topic ≠ "" ∧ name = fileName topic ∧
        (node.isDirectory = false ∨ OutOfReach directory access name) := by
  have plain := listing.named _ member
  have leads {visit : Visit} : files.locate (joinPath directory name) = .ok visit ↔
      ¬OutOfReach directory access name ∧
        ∃ other, (name, other) ∈ entries ∧ place.below name other = visit :=
    locate_entry_iff found inside listing plain.nonempty plain.undotted plain.unslashed
  have only {other : Node} (also : (name, other) ∈ entries) : other = node := by
    have first := (Node.entry_eq_some_iff listing).mpr member
    have second := (Node.entry_eq_some_iff listing).mpr also
    exact Option.some.inj (second.symm.trans first)
  rw [listed?]
  split
  case h_1 allowed kept names above located =>
    obtain ⟨reached, other, also, same⟩ := leads.mp located
    obtain rfl := only also
    have directory : other = .directory allowed kept := congrArg Visit.node same
    simp [directory, Node.isDirectory, reached]
  case h_2 otherwise =>
    rw [ofFileName?_eq_some_iff]
    have seen : node.isDirectory = false ∨ OutOfReach directory access name := by
      by_cases reached : OutOfReach directory access name
      · exact .inr reached
      · cases node with
        | directory allowed kept =>
            exact absurd (leads.mpr ⟨reached, _, member, rfl⟩) (otherwise allowed kept _ _)
        | file allowed content => exact .inl rfl
        | device => exact .inl rfl
    simp [seen]

theorem mem_topics_iff :
    topic ∈ entries.filterMap (fun entry => listed? files directory entry.1) ↔
      topic ≠ "" ∧ ∃ node, (fileName topic, node) ∈ entries ∧
        (node.isDirectory = false ∨ OutOfReach directory access (fileName topic)) := by
  rw [List.mem_filterMap]
  constructor
  · rintro ⟨⟨name, node⟩, member, carries⟩
    obtain ⟨nonempty, rfl, seen⟩ := (listed?_eq_some_iff found inside listing member).mp carries
    exact ⟨nonempty, node, member, seen⟩
  · rintro ⟨nonempty, node, member, seen⟩
    exact ⟨_, member, (listed?_eq_some_iff found inside listing member).mpr ⟨nonempty, rfl, seen⟩⟩

omit found inside in
theorem topics_nodup :
    (entries.filterMap fun entry => listed? files directory entry.1).Nodup := by
  have carried {name : FileName} {topic : String} (carries : topic ∈ listed? files directory name) :
      name = fileName topic := by
    rw [Option.mem_def, listed?] at carries
    split at carries
    · cases carries
    · exact (ofFileName?_eq_some_iff.mp carries).2
  have names : ((entries.map (·.1)).filterMap (listed? files directory)).Nodup :=
    listing.distinct.filterMap fun name other topic carries also =>
      (carried carries).trans (carried also).symm
  rwa [List.filterMap_map] at names

theorem subscribe_file {allowed : Access} {content : List UInt8}
    (member : (fileName topic, .file allowed content) ∈ entries)
    (reached : ¬OutOfReach directory access (fileName topic)) :
    subscribe files directory topic = .ok (path directory topic) ∧
      files.locate (path directory topic) =
        .ok (place.below (fileName topic) (.file allowed content)) ∧
      files.read (path directory topic) =
        if allowed.readable then .ok content else .error .denied := by
  have unslashed := (listing.named _ member).unslashed
  have located := (locate_path_iff found inside listing unslashed).mpr ⟨reached, _, member, rfl⟩
  refine ⟨by rw [subscribe, located]; rfl, located, ?_⟩
  rw [FileSystem.read, located]
  rfl

theorem subscribe_missing (unslashed : '/' ∉ topic.toList)
    (absent : ∀ allowed content, (fileName topic, .file allowed content) ∈ entries →
      OutOfReach directory access (fileName topic)) :
    subscribe files directory topic = .error (.topicNotFound topic) := by
  rw [subscribe]
  split
  case h_1 allowed content names above located =>
    obtain ⟨reached, node, member, same⟩ :=
      (locate_path_iff found inside listing (slash_not_mem_fileName unslashed)).mp located
    obtain rfl : node = .file allowed content := congrArg Visit.node same
    exact absurd (absent allowed content member) reached
  case h_2 => rfl

end Directory

/-- Names without duplicates, sorted, ascend strictly in the order of their bytes. -/
theorem pairwise_encode_mergeSort {topics : List String} (distinct : topics.Nodup) :
    ((topics.mergeSort fun first second => first ≤ second).map Utf8.encode).Pairwise (· < ·) := by
  have sorted : (topics.mergeSort fun first second => first ≤ second).Pairwise (· ≤ ·) := by
    refine (List.pairwise_mergeSort ?_ ?_ topics).imp of_decide_eq_true
    · intro first second third below above
      exact decide_eq_true (String.le_trans (of_decide_eq_true below) (of_decide_eq_true above))
    · intro first second
      simpa using String.le_total first second
  have distinct := (List.mergeSort_perm topics fun first second => first ≤ second).nodup_iff.mpr distinct
  refine List.pairwise_map.mpr ((sorted.and distinct).imp ?_)
  rintro first second ⟨le, different⟩
  refine Utf8.encode_lt_encode (String.not_le.mp fun ge => different (String.le_antisymm le ge))

/-- Discovering lists the topics of the files in a directory that may be read, in the order of their
bytes, and each of them can be subscribed to, which leads to that very file; it is opened if it may be
read.  A topic without a file cannot.  Paths that cannot be followed are the exception: their topics are
listed even if they are directories, and cannot be subscribed to. -/
theorem discover_lists_subscribable {files : FileSystem} {directory : List UInt8} {place : Visit}
    {access : Access} {entries : List (FileName × Node)}
    (found : files.locate directory = .ok place) (inside : place.node = .directory access entries)
    (listing : Listing entries) :
    (access.readable = false → discover files directory = .error (.io PathFault.denied.message)) ∧
      (access.readable = true → ∃ topics, discover files directory = .ok topics ∧
        (topics.map Utf8.encode).Pairwise (· < ·) ∧
        ∀ topic, topic ∈ topics ↔ topic ≠ "" ∧ ∃ node, (fileName topic, node) ∈ entries ∧
          (node.isDirectory = false ∨ OutOfReach directory access (fileName topic))) ∧
      (∀ topic allowed content, (fileName topic, .file allowed content) ∈ entries →
        ¬OutOfReach directory access (fileName topic) →
          subscribe files directory topic = .ok (path directory topic) ∧
          files.locate (path directory topic) =
            .ok (place.below (fileName topic) (.file allowed content)) ∧
          files.read (path directory topic) =
            if allowed.readable then .ok content else .error .denied) ∧
      ∀ topic, '/' ∉ topic.toList →
        (∀ allowed content, (fileName topic, .file allowed content) ∈ entries →
          OutOfReach directory access (fileName topic)) →
        subscribe files directory topic = .error (.topicNotFound topic) := by
  obtain ⟨node, names, above⟩ := place
  cases inside
  refine ⟨?_, ?_, fun _ _ _ => subscribe_file found rfl listing,
    fun _ => subscribe_missing found rfl listing⟩
  · intro closed
    simp [discover, found, closed]
  · intro readable
    refine ⟨_, by simp only [discover, found, readable, if_true]; rfl, ?_, ?_⟩
    · exact pairwise_encode_mergeSort (topics_nodup listing)
    · intro topic
      rw [(List.mergeSort_perm _ _).mem_iff, mem_topics_iff found rfl listing]

/-- Names with dots in odd places, one that is no text, a file that may not be read, and a directory. -/
def oddEntries : List (FileName × Node) :=
  [(fileName ".", .file {} [1]), (fileName "a.b", .file {} [2]), (fileName "", .file {} [3]),
    (fileName ".jsonl", .file ⟨false, true, true⟩ [4]), (255 :: fileName "", .file {} [5]),
    (fileName "d", .empty)]

theorem oddEntries_listing : Listing oddEntries where
  named := by decide +kernel
  distinct := by decide +kernel

def oddFiles : FileSystem := { root := .directory {} [(Utf8.encode "topics", .directory {} oddEntries)] }

/-- The topics of odd names, each with a file of its own, and no topic of a directory. -/
theorem discover_lists_subscribable_oddNames :
    let directory := Utf8.encode "/topics"
    oddFiles.locate directory = .ok (oddFiles.top.below (Utf8.encode "topics") (.directory {} oddEntries)) ∧
      Listing oddEntries ∧
      ∃ topics, discover oddFiles directory = .ok topics ∧ (topics.map Utf8.encode).Pairwise (· < ·) ∧
        (∀ topic ∈ [".", "a.b", ".jsonl"], topic ∈ topics ∧
          subscribe oddFiles directory topic = .ok (path directory topic)) ∧
        oddFiles.read (path directory "a.b") = .ok [2] ∧
        oddFiles.read (path directory ".jsonl") = .error .denied ∧
        "d" ∉ topics ∧ subscribe oddFiles directory "d" = .error (.topicNotFound "d") := by
  intro directory
  have found : oddFiles.locate directory =
      .ok (oddFiles.top.below (Utf8.encode "topics") (.directory {} oddEntries)) := rfl
  obtain ⟨-, listed, subscribable, absent⟩ := discover_lists_subscribable found rfl oddEntries_listing
  obtain ⟨topics, discovered, ascending, members⟩ := listed rfl
  have within : ∀ topic ∈ [".", "a.b", ".jsonl", "d"], ¬OutOfReach directory {} (fileName topic) := by
    decide +kernel
  have files : (fileName ".", .file {} [1]) ∈ oddEntries ∧ (fileName "a.b", .file {} [2]) ∈ oddEntries ∧
      (fileName ".jsonl", .file ⟨false, true, true⟩ [4]) ∈ oddEntries := by
    simp [oddEntries]
  have unlisted : ∀ node, (fileName "d", node) ∈ oddEntries → node = .empty := by
    intro node member
    have entry := (Node.entry_eq_some_iff oddEntries_listing).mpr member
    exact (Option.some.inj entry).symm
  refine ⟨found, oddEntries_listing, topics, discovered, ascending, ?_, ?_, ?_, ?_, ?_⟩
  · intro topic among
    have file : topic ≠ "" ∧ ∃ allowed content, (fileName topic, .file allowed content) ∈ oddEntries := by
      simp only [List.mem_cons, List.not_mem_nil, or_false] at among
      rcases among with rfl | rfl | rfl
      · exact ⟨by decide, _, _, files.1⟩
      · exact ⟨by decide, _, _, files.2.1⟩
      · exact ⟨by decide, _, _, files.2.2⟩
    obtain ⟨nonempty, allowed, content, member⟩ := file
    have reached := within topic (List.mem_append_left ["d"] among)
    exact ⟨(members topic).mpr ⟨nonempty, _, member, .inl rfl⟩,
      (subscribable topic allowed content member reached).1⟩
  · exact (subscribable "a.b" _ _ files.2.1 (within _ (by simp))).2.2
  · exact (subscribable ".jsonl" _ _ files.2.2 (within _ (by simp))).2.2
  · intro listed
    obtain ⟨-, node, member, seen⟩ := (members "d").mp listed
    obtain rfl := unlisted node member
    exact within "d" (by simp) (seen.resolve_left (by decide))
  · exact absent "d" (by decide) fun allowed content member => nomatch unlisted _ member

/-- A path that leads to where it starts, in so many steps. -/
def stayingPath (steps : Nat) : List UInt8 := dot :: (List.replicate steps [slash, dot]).flatten

theorem length_stayingPath (steps : Nat) : (stayingPath steps).length = 2 * steps + 1 := by
  simp [stayingPath, Nat.mul_comm]

theorem splitOn_stayingPath (steps : Nat) :
    (stayingPath steps).splitOn slash = List.replicate (steps + 1) [dot] := by
  induction steps with
  | zero => rfl
  | succ steps ih =>
      have longer : stayingPath (steps + 1) = [dot] ++ slash :: stayingPath steps := rfl
      rw [longer, splitOn_append_slash, ih]
      rfl

theorem follow_dots {visit : Visit} {access : Access} {entries : List (FileName × Node)}
    (inside : visit.node = .directory access entries) (searchable : access.searchable = true)
    (steps : Nat) : visit.follow (List.replicate steps [dot]) = .ok visit := by
  induction steps with
  | zero => rfl
  | succ steps ih =>
      have stays : visit.step [dot] = .ok visit := by simp [Visit.step, inside, searchable]
      rw [List.replicate_succ, Visit.follow, List.foldlM_cons, stays]
      exact ih

theorem locate_stayingPath {files : FileSystem} {access : Access} {entries : List (FileName × Node)}
    (root : files.root = .directory access entries) (working : files.working = [])
    (searchable : access.searchable = true) {steps : Nat} (short : 2 * steps + 1 ≤ longestPath) :
    files.locate (stayingPath steps) = .ok files.top := by
  have nonzero : 0 ∉ stayingPath steps := by simp [stayingPath, dot, slash]
  have starts : files.workplace = .ok files.top := by rw [FileSystem.workplace, working]; rfl
  refine FileSystem.locate_eq_ok_iff.mpr ⟨files.top, ?_, ?_⟩
  · refine FileSystem.entrance_eq_ok_iff.mpr ⟨nonzero, ?_, dot, rfl, starts⟩
    rw [length_stayingPath]
    exact short
  · rw [splitOn_stayingPath]
    exact follow_dots root searchable _

/-- The root directory with one entry, which has the name of the file of the topic `call`. -/
def callFiles (access : Access) (call : Node) : FileSystem :=
  { root := .directory access [(fileName "call", call)] }

theorem listing_call (call : Node) : Listing [(fileName "call", call)] where
  named := by
    have name : IsName (fileName "call") := by decide
    intro entry member
    obtain rfl := List.mem_singleton.mp member
    exact name
  distinct := List.nodup_singleton _

section Call

variable {access : Access} {call : Node} {directory : List UInt8}
  (found : (callFiles access call).locate directory = .ok (callFiles access call).top)
include found

theorem discover_call (readable : access.readable = true)
    (seen : call.isDirectory = false ∨ OutOfReach directory access (fileName "call")) :
    discover (callFiles access call) directory = .ok ["call"] := by
  have member : (fileName "call", call) ∈ [(fileName "call", call)] := List.mem_singleton_self _
  have carried : listed? (callFiles access call) directory (fileName "call") = some "call" :=
    (listed?_eq_some_iff found rfl (listing_call call) member).mpr ⟨by decide, rfl, seen⟩
  have topics : [(fileName "call", call)].filterMap (fun entry =>
      listed? (callFiles access call) directory entry.1) = ["call"] :=
    List.filterMap_cons_some carried
  rw [discover, found]
  simp only [FileSystem.top, callFiles, readable, if_true] at topics ⊢
  rw [topics, List.mergeSort_singleton]

theorem subscribe_call_of_outOfReach (beyond : OutOfReach directory access (fileName "call")) :
    subscribe (callFiles access call) directory "call" = .error (.topicNotFound "call") :=
  subscribe_missing found rfl (listing_call call) (by decide) fun _ _ _ => beyond

end Call

/-- A topic that is discovered and has a file is not found if the path of the file is too long, or names
in the directory may not be looked up; then a directory is discovered as well.  A directory that may not
be read is not listed, and a file that may not be read is not opened. -/
theorem discover_call_exceptions :
    let file : Node := .file {} []
    let long := stayingPath 2044
    let unsearchable : Access := { searchable := false }
    let unreadable : Access := { readable := false }
    (discover (callFiles {} file) long = .ok ["call"] ∧
        subscribe (callFiles {} file) long "call" = .error (.topicNotFound "call")) ∧
      (discover (callFiles unsearchable file) [slash] = .ok ["call"] ∧
        subscribe (callFiles unsearchable file) [slash] "call" = .error (.topicNotFound "call")) ∧
      discover (callFiles unsearchable .empty) [slash] = .ok ["call"] ∧
      discover (callFiles unreadable file) [slash] = .error (.io PathFault.denied.message) ∧
      discover (callFiles {} (.file unreadable [])) [slash] = .ok ["call"] ∧
        subscribe (callFiles {} (.file unreadable [])) [slash] "call" = .ok (path [slash] "call") ∧
        (callFiles {} (.file unreadable [])).read (path [slash] "call") = .error .denied := by
  intro file long unsearchable unreadable
  have top (access : Access) (call : Node) :
      (callFiles access call).locate [slash] = .ok (callFiles access call).top := rfl
  have located : (callFiles {} file).locate long = .ok (callFiles {} file).top :=
    locate_stayingPath rfl rfl rfl (by decide : 2 * 2044 + 1 ≤ longestPath)
  have tooLong : OutOfReach long {} (fileName "call") := by
    have relative : (fileName "call").head? ≠ some slash := by decide
    have length := length_add_le_joinPath (stayingPath 2044) relative
    rw [length_stayingPath, length_fileName] at length
    exact .inl (Nat.lt_of_lt_of_le (by decide) length)
  have locked : OutOfReach [slash] unsearchable (fileName "call") := .inr rfl
  have reached : ¬OutOfReach [slash] {} (fileName "call") := by decide
  obtain ⟨subscribed, -, read⟩ := subscribe_file (top {} (.file unreadable [])) rfl
    (listing_call (.file unreadable [])) (List.mem_singleton_self _) reached
  refine ⟨⟨?_, ?_⟩, ⟨?_, ?_⟩, ?_, ?_, ?_, subscribed, read⟩
  · exact discover_call located rfl (.inl rfl)
  · exact subscribe_call_of_outOfReach located tooLong
  · exact discover_call (top unsearchable file) rfl (.inl rfl)
  · exact subscribe_call_of_outOfReach (top unsearchable file) locked
  · exact discover_call (top unsearchable .empty) rfl (.inr locked)
  · rw [discover, top unreadable file]
    rfl
  · exact discover_call (top {} (.file unreadable [])) rfl (.inl rfl)

end TimingBoard.Topic
