import TimingBoard.Proofs.Source.Line

namespace TimingBoard

/-! Following a file delivers its complete lines, however its bytes come in.

A read may end anywhere in a line and may bring nothing.  What the reads deliver is told by all bytes
together, cut at the newlines: before each read, the bytes after the last newline are pending. -/

namespace Tail

variable {topic : String} {pending bytes : List UInt8} {reads : List (List UInt8)}

/-- The complete lines of some bytes, each with the newline that ends it. -/
def linesOf (bytes : List UInt8) : List (List UInt8) :=
  (bytes.splitOn newline).dropLast.map (· ++ [newline])

/-- The bytes after the last newline. -/
def openLine (bytes : List UInt8) : List UInt8 := (bytes.splitOn newline).getLastD []

theorem linesOf_of_not_mem (unended : newline ∉ bytes) : linesOf bytes = [] ∧ openLine bytes = bytes := by
  simp [linesOf, openLine, List.splitOn_eq_singleton unended]

theorem linesOf_cons {line : List UInt8} (unended : newline ∉ line) (rest : List UInt8) :
    linesOf (line ++ newline :: rest) = (line ++ [newline]) :: linesOf rest ∧
      openLine (line ++ newline :: rest) = openLine rest := by
  have cut : (line ++ newline :: rest).splitOn newline = line :: rest.splitOn newline :=
    List.splitOn_append_cons_self_of_not_mem unended rest
  have more : rest.splitOn newline ≠ [] := List.splitOn_ne_nil newline rest
  constructor
  · rw [linesOf, cut, List.dropLast_cons_of_ne_nil more, List.map_cons, linesOf]
  · rw [openLine, cut, openLine]
    cases found : rest.splitOn newline with
    | nil => exact absurd found more
    | cons first later => rfl

/-- Induction along the lines of some bytes. -/
theorem line_induction {motive : List UInt8 → Prop}
    (unended : ∀ bytes, newline ∉ bytes → motive bytes)
    (line : ∀ text rest, newline ∉ text → motive rest → motive (text ++ newline :: rest))
    (bytes : List UInt8) : motive bytes := by
  by_cases ended : newline ∈ bytes
  · obtain ⟨text, rest, same, whole⟩ := List.eq_append_cons_of_mem ended
    have shorter : rest.length < bytes.length := by
      rw [same, List.length_append, List.length_cons]
      omega
    rw [same]
    exact line text rest whole (line_induction unended line rest)
  · exact unended bytes ended
termination_by bytes.length

/-- The lines and what follows them are all the bytes. -/
theorem linesOf_joined (bytes : List UInt8) :
    (linesOf bytes).flatten ++ openLine bytes = bytes ∧ newline ∉ openLine bytes ∧
      ∀ line ∈ linesOf bytes, ∃ text, newline ∉ text ∧ line = text ++ [newline] := by
  induction bytes using line_induction with
  | unended bytes unended => simpa [linesOf_of_not_mem unended] using unended
  | line text rest whole ih =>
      obtain ⟨joined, left, lines⟩ := ih
      obtain ⟨first, last⟩ := linesOf_cons whole rest
      rw [first, last]
      refine ⟨by simp [joined], left, ?_⟩
      intro line member
      rcases List.mem_cons.mp member with rfl | later
      · exact ⟨text, whole, rfl⟩
      · exact lines line later

/-- More bytes go on with the open line. -/
theorem linesOf_append (bytes more : List UInt8) :
    linesOf (bytes ++ more) = linesOf bytes ++ linesOf (openLine bytes ++ more) ∧
      openLine (bytes ++ more) = openLine (openLine bytes ++ more) := by
  induction bytes using line_induction with
  | unended bytes unended => simp [linesOf_of_not_mem unended]
  | line text rest whole ih =>
      obtain ⟨lines, left⟩ := ih
      obtain ⟨first, last⟩ := linesOf_cons whole rest
      obtain ⟨firstLonger, lastLonger⟩ := linesOf_cons whole (rest ++ more)
      rw [List.append_assoc, List.cons_append, firstLonger, lastLonger, first, last, lines, left]
      exact ⟨rfl, rfl⟩

/-- A read delivers the line that it completes, and leaves the open line pending. -/
theorem read_eq (topic : String) (unended : newline ∉ pending) (single : newline ∉ bytes.dropLast) :
    read ⟨topic, pending⟩ bytes =
      ((linesOf (pending ++ bytes)).flatMap (ofLine topic), ⟨topic, openLine (pending ++ bytes)⟩) := by
  rcases List.eq_nil_or_concat bytes with rfl | ⟨before, byte, rfl⟩
  · simp [read, linesOf_of_not_mem unended]
  · rw [List.concat_eq_append, List.dropLast_concat] at single
    have earlier : newline ∉ pending ++ before := by simp [unended, single]
    by_cases ended : byte = newline
    · subst ended
      obtain ⟨line, left⟩ := linesOf_cons earlier []
      rw [List.concat_eq_append, ← List.append_assoc, line, left]
      simp [read, linesOf, openLine]
    · have still : newline ∉ pending ++ (before ++ [byte]) := by simp [unended, single, Ne.symm ended]
      simp [read, ended, linesOf_of_not_mem still]

/-- What the reads deliver does not depend on where they end. -/
theorem readAll_eq (topic : String) (unended : newline ∉ pending)
    (single : ∀ read ∈ reads, newline ∉ read.dropLast) :
    readAll ⟨topic, pending⟩ reads =
      ((linesOf (pending ++ reads.flatten)).flatMap (ofLine topic),
        ⟨topic, openLine (pending ++ reads.flatten)⟩) := by
  induction reads generalizing pending with
  | nil => simp [readAll, linesOf_of_not_mem unended]
  | cons bytes rest ih =>
      obtain ⟨first, later⟩ := List.forall_mem_cons.mp single
      -- What is pending after this read is again an open line.
      have left := (linesOf_joined (pending ++ bytes)).2.1
      obtain ⟨lines, last⟩ := linesOf_append (pending ++ bytes) rest.flatten
      rw [readAll, read_eq topic unended first, List.flatten_cons, ← List.append_assoc, lines, last,
        List.flatMap_append]
      simp only [ih left later]

theorem readsOf_flatten (chunk : List UInt8) : (readsOf chunk).flatten = chunk := by
  induction chunk with
  | nil => rfl
  | cons byte rest ih =>
      rw [readsOf]
      split
      · rw [List.flatten_cons, ih, List.singleton_append]
      · cases found : readsOf rest with
        | nil => simpa [found] using ih
        | cons read more => simpa [found] using ih

theorem readsOf_single (chunk : List UInt8) : ∀ read ∈ readsOf chunk, newline ∉ read.dropLast := by
  induction chunk with
  | nil => exact List.forall_mem_nil _
  | cons byte rest ih =>
      rw [readsOf]
      split
      · exact List.forall_mem_cons.mpr ⟨List.not_mem_nil, ih⟩
      · rename_i unended
        cases found : readsOf rest with
        | nil => simp
        | cons read more =>
            rw [found] at ih
            obtain ⟨first, later⟩ := List.forall_mem_cons.mp ih
            refine List.forall_mem_cons.mpr ⟨?_, later⟩
            cases read with
            | nil => exact List.not_mem_nil
            | cons next others => simpa [Ne.symm unended] using first

theorem flatten_flatMap_readsOf (chunks : List (List UInt8)) :
    (chunks.flatMap readsOf).flatten = chunks.flatten := by
  induction chunks with
  | nil => rfl
  | cons chunk rest ih => rw [List.flatMap_cons, List.flatten_append, readsOf_flatten, ih, List.flatten_cons]

/-- What a tail has delivered once it has read some bytes, and what it will do with the next ones. -/
structure Follows (topic : String) (bytes : List UInt8) (deliveries : List Delivery) (tail : Tail) :
    Prop where
  trees : deliveries.filterMap Delivery.tree? = (linesOf bytes).filterMap treeOf?
  warned : warnings deliveries = (linesOf bytes).filterMap (warningOf? topic)
  byLine : deliveries = (linesOf bytes).flatMap (ofLine topic)
  /-- A blank line delivers nothing at all. -/
  blank : ∀ line ∈ linesOf bytes, ∀ text, Utf8.decode? line = some text → Text.trim text = "" →
    ofLine topic line = []
  pending : tail.pending = openLine bytes
  /-- The bytes after the last newline are delivered when their line is completed, with all of it. -/
  completed : ∀ rest, newline ∉ rest →
    tail.read (rest ++ [newline]) = (ofLine topic (openLine bytes ++ rest ++ [newline]), ⟨topic, []⟩)

theorem readAll_delivers (topic : String) (single : ∀ read ∈ reads, newline ∉ read.dropLast) :
    Follows topic reads.flatten (readAll ⟨topic, []⟩ reads).1 (readAll ⟨topic, []⟩ reads).2 := by
  have all : readAll ⟨topic, []⟩ reads =
      ((linesOf reads.flatten).flatMap (ofLine topic), ⟨topic, openLine reads.flatten⟩) :=
    readAll_eq topic List.not_mem_nil single
  rw [all]
  exact
    { trees := trees_flatMap_ofLine topic (linesOf reads.flatten)
      warned := warnings_flatMap_ofLine topic (linesOf reads.flatten)
      byLine := rfl
      blank := fun _ _ _ decoded blank => ofLine_of_blank decoded blank
      pending := rfl
      completed := fun rest _ => by simp [read] }

/-- However the bytes of a file come in, what is delivered is what their complete lines deliver, in
order; the bytes after the last newline wait for the rest of their line. -/
theorem readAll_follows (topic : String) (reads : List (List UInt8))
    (single : ∀ read ∈ reads, newline ∉ read.dropLast) :
    (linesOf reads.flatten).flatten ++ openLine reads.flatten = reads.flatten ∧
      newline ∉ openLine reads.flatten ∧
      (∀ line ∈ linesOf reads.flatten, ∃ text, newline ∉ text ∧ line = text ++ [newline]) ∧
      Follows topic reads.flatten (readAll ⟨topic, []⟩ reads).1 (readAll ⟨topic, []⟩ reads).2 ∧
      (∀ others : List (List UInt8), (∀ read ∈ others, newline ∉ read.dropLast) →
        others.flatten = reads.flatten → readAll ⟨topic, []⟩ others = readAll ⟨topic, []⟩ reads) ∧
      ∀ chunks : List (List UInt8), chunks.flatten = reads.flatten →
        feedAll ⟨topic, []⟩ chunks = readAll ⟨topic, []⟩ reads := by
  obtain ⟨joined, left, lines⟩ := linesOf_joined reads.flatten
  have same : ∀ others : List (List UInt8), (∀ read ∈ others, newline ∉ read.dropLast) →
      others.flatten = reads.flatten → readAll ⟨topic, []⟩ others = readAll ⟨topic, []⟩ reads := by
    intro others otherSingle joins
    rw [readAll_eq topic List.not_mem_nil otherSingle, readAll_eq topic List.not_mem_nil single, joins]
  refine ⟨joined, left, lines, readAll_delivers topic single, same, ?_⟩
  intro chunks joins
  refine same (chunks.flatMap readsOf) ?_ ?_
  · intro read member
    obtain ⟨chunk, -, inChunk⟩ := List.mem_flatMap.mp member
    exact readsOf_single chunk read inChunk
  · rw [flatten_flatMap_readsOf, joins]

/-- The first read ends inside a letter, and the next one finds nothing. -/
theorem readAll_follows_splitLetter :
    let reads : List (List UInt8) := [[0xC3], [], [0xA9, 0x0A], [0x20]]
    (∀ read ∈ reads, newline ∉ read.dropLast) ∧
      Follows "topic" reads.flatten (readAll ⟨"topic", []⟩ reads).1 (readAll ⟨"topic", []⟩ reads).2 := by
  intro reads
  have single : ∀ read ∈ reads, newline ∉ read.dropLast := by decide
  obtain ⟨-, -, -, follows, -⟩ := readAll_follows "topic" reads single
  exact ⟨single, follows⟩

end Tail

end TimingBoard
