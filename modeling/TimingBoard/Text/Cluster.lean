import TimingBoard.Text.CodePoints
import TimingBoard.Text.Emoji
import TimingBoard.Text.GeneralCategory.Basic

namespace TimingBoard

/-! Text as grapheme clusters: what a reader takes for one character.

Between two characters there is a boundary unless a rule joins them.  The rules are those of the
Unicode standard for extended clusters.  Each looks at the character after the place and at little
of what comes before it. -/

inductive ClusterRole where
  | carriageReturn
  | lineFeed
  | control
  /-- A mark that belongs to what comes before it. -/
  | extend
  | joiner
  /-- One of two characters that stand for a flag. -/
  | regional
  /-- A sign that belongs to what comes after it. -/
  | leading
  | spacing
  | leadJamo
  | vowelJamo
  | tailJamo
  | openSyllable
  | closedSyllable
  | pictograph
  | consonant
  | other
deriving DecidableEq, Repr

namespace ClusterRole

/-- Code points that are not shown even where their character is unknown. -/
def ignorable : CodePoints :=
  [(0xad, 0xad), (0x34f, 0x34f), (0x61c, 0x61c), (0x115f, 0x1160), (0x17b4, 0x17b5),
   (0x180b, 0x180f), (0x200b, 0x200f), (0x202a, 0x202e), (0x2060, 0x206f), (0x3164, 0x3164),
   (0xfe00, 0xfe0f), (0xfeff, 0xfeff), (0xffa0, 0xffa0), (0xfff0, 0xfff8), (0x1bca0, 0x1bca3),
   (0x1d173, 0x1d17a), (0xe0000, 0xe0fff)]

/-- Extending characters other than nonspacing and enclosing marks. -/
def otherExtending : CodePoints :=
  [(0x9be, 0x9be), (0x9d7, 0x9d7), (0xb3e, 0xb3e), (0xb57, 0xb57), (0xbbe, 0xbbe), (0xbd7, 0xbd7),
   (0xcc0, 0xcc0), (0xcc2, 0xcc2), (0xcc7, 0xcc8), (0xcca, 0xccb), (0xcd5, 0xcd6), (0xd3e, 0xd3e),
   (0xd57, 0xd57), (0xdcf, 0xdcf), (0xddf, 0xddf), (0x1715, 0x1715), (0x1734, 0x1734),
   (0x1b35, 0x1b35), (0x1b3b, 0x1b3b), (0x1b3d, 0x1b3d), (0x1b43, 0x1b44), (0x1baa, 0x1baa),
   (0x1bf2, 0x1bf3), (0x200c, 0x200c), (0x302e, 0x302f), (0xa953, 0xa953), (0xa9c0, 0xa9c0),
   (0xff9e, 0xff9f), (0x111c0, 0x111c0), (0x11235, 0x11235), (0x1133e, 0x1133e),
   (0x1134d, 0x1134d), (0x11357, 0x11357), (0x113b8, 0x113b8), (0x113c2, 0x113c2),
   (0x113c5, 0x113c5), (0x113c7, 0x113c9), (0x113cf, 0x113cf), (0x114b0, 0x114b0),
   (0x114bd, 0x114bd), (0x115af, 0x115af), (0x116b6, 0x116b6), (0x11930, 0x11930),
   (0x1193d, 0x1193d), (0x11f41, 0x11f41), (0x16ff0, 0x16ff1), (0x1d165, 0x1d166),
   (0x1d16d, 0x1d172), (0xe0020, 0xe007f)]

def leadingSigns : CodePoints :=
  [(0x600, 0x605), (0x6dd, 0x6dd), (0x70f, 0x70f), (0x890, 0x891), (0x8e2, 0x8e2), (0xd4e, 0xd4e),
   (0x110bd, 0x110bd), (0x110cd, 0x110cd), (0x111c2, 0x111c3), (0x113d1, 0x113d1),
   (0x1193f, 0x1193f), (0x11941, 0x11941), (0x11a84, 0x11a89), (0x11d46, 0x11d46),
   (0x11f02, 0x11f02)]

/-- Spacing marks that do not belong to what comes before them. -/
def freeMarks : CodePoints :=
  [(0x102b, 0x102c), (0x1038, 0x1038), (0x1062, 0x1064), (0x1067, 0x106d), (0x1083, 0x1083),
   (0x1087, 0x108c), (0x108f, 0x108f), (0x109a, 0x109c), (0x1a61, 0x1a61), (0x1a63, 0x1a64),
   (0xaa7b, 0xaa7b), (0xaa7d, 0xaa7d), (0x11720, 0x11721)]

/-- Consonants of the scripts that write conjuncts. -/
def consonants : CodePoints :=
  [(0x915, 0x939), (0x958, 0x95f), (0x978, 0x97f), (0x995, 0x9a8), (0x9aa, 0x9b0), (0x9b2, 0x9b2),
   (0x9b6, 0x9b9), (0x9dc, 0x9dd), (0x9df, 0x9df), (0x9f0, 0x9f1), (0xa95, 0xaa8), (0xaaa, 0xab0),
   (0xab2, 0xab3), (0xab5, 0xab9), (0xaf9, 0xaf9), (0xb15, 0xb28), (0xb2a, 0xb30), (0xb32, 0xb33),
   (0xb35, 0xb39), (0xb5c, 0xb5d), (0xb5f, 0xb5f), (0xb71, 0xb71), (0xc15, 0xc28), (0xc2a, 0xc39),
   (0xc58, 0xc5a), (0xd15, 0xd3a), (0x1000, 0x102a), (0x103f, 0x103f), (0x1050, 0x1055),
   (0x105a, 0x105d), (0x1061, 0x1061), (0x1065, 0x1066), (0x106e, 0x1070), (0x1075, 0x1081),
   (0x108e, 0x108e), (0x1780, 0x17b3), (0x1a20, 0x1a54), (0x1b0b, 0x1b0c), (0x1b13, 0x1b33),
   (0x1b45, 0x1b4c), (0x1b83, 0x1ba0), (0x1bae, 0x1baf), (0x1bbb, 0x1bbd), (0xa989, 0xa98b),
   (0xa98f, 0xa9b2), (0xa9e0, 0xa9e4), (0xa9e7, 0xa9ef), (0xa9fa, 0xa9fe), (0xaa60, 0xaa6f),
   (0xaa71, 0xaa73), (0xaa7a, 0xaa7a), (0xaa7e, 0xaa7f), (0xaae0, 0xaaea), (0xabc0, 0xabda),
   (0x10a00, 0x10a00), (0x10a10, 0x10a13), (0x10a15, 0x10a17), (0x10a19, 0x10a35),
   (0x11103, 0x11126), (0x11144, 0x11144), (0x11147, 0x11147), (0x11380, 0x11389),
   (0x1138b, 0x1138b), (0x1138e, 0x1138e), (0x11390, 0x113b5), (0x11900, 0x11906),
   (0x11909, 0x11909), (0x1190c, 0x11913), (0x11915, 0x11916), (0x11918, 0x1192f),
   (0x11a00, 0x11a00), (0x11a0b, 0x11a32), (0x11a50, 0x11a50), (0x11a5c, 0x11a83),
   (0x11f04, 0x11f10), (0x11f12, 0x11f33)]

/-- Signs that bind a consonant to the next one. -/
def linkers : CodePoints :=
  [(0x94d, 0x94d), (0x9cd, 0x9cd), (0xacd, 0xacd), (0xb4d, 0xb4d), (0xc4d, 0xc4d), (0xd4d, 0xd4d),
   (0x1039, 0x1039), (0x17d2, 0x17d2), (0x1a60, 0x1a60), (0x1b44, 0x1b44), (0x1bab, 0x1bab),
   (0xa9c0, 0xa9c0), (0xaaf6, 0xaaf6), (0x10a3f, 0x10a3f), (0x11133, 0x11133), (0x113d0, 0x113d0),
   (0x1193e, 0x1193e), (0x11a47, 0x11a47), (0x11a99, 0x11a99), (0x11f42, 0x11f42)]

def regionalIndicators : CodePoints := [(0x1f1e6, 0x1f1ff)]

def leadJamos : CodePoints := [(0x1100, 0x115f), (0xa960, 0xa97c)]

def vowelJamos : CodePoints :=
  [(0x1160, 0x11a7), (0xd7b0, 0xd7c6), (0x16d63, 0x16d63), (0x16d67, 0x16d6a)]

def tailJamos : CodePoints := [(0x11a8, 0x11ff), (0xd7cb, 0xd7fb)]

def isExtending (c : Char) : Bool :=
  GeneralCategory.ofChar c == .mn || GeneralCategory.ofChar c == .me || otherExtending.holds c ||
    Emoji.isModifier c

def isControl (c : Char) : Bool :=
  match GeneralCategory.ofChar c with
  | .cc | .cf | .zl | .zp => true
  | .cn => ignorable.holds c
  | _ => false

/-- Vowel signs of two scripts are spacing although they are letters. -/
def isSpacing (c : Char) : Bool :=
  (GeneralCategory.ofChar c == .mc && !freeMarks.holds c) || c == '\u0e33' || c == '\u0eb3'

/-- The role of a syllable, which has a tail or has none. -/
def syllable? (c : Char) : Option ClusterRole :=
  if 0xac00 ≤ c.toNat ∧ c.toNat ≤ 0xd7a3 then
    some (if (c.toNat - 0xac00) % 28 = 0 then .openSyllable else .closedSyllable)
  else none

def ofChar (c : Char) : ClusterRole :=
  if ' ' ≤ c ∧ c ≤ '~' then .other
  else if c = '\r' then .carriageReturn
  else if c = '\n' then .lineFeed
  else if c = '\u200d' then .joiner
  else if isExtending c then .extend
  else if leadingSigns.holds c then .leading
  else if isControl c then .control
  else if regionalIndicators.holds c then .regional
  else if leadJamos.holds c then .leadJamo
  else if vowelJamos.holds c then .vowelJamo
  else if tailJamos.holds c then .tailJamo
  else if isSpacing c then .spacing
  else if Emoji.pictographs.holds c then .pictograph
  else if consonants.holds c then .consonant
  else (syllable? c).getD .other

/-- Whether nothing joins across this role. -/
def isBreak : ClusterRole → Bool
  | .carriageReturn | .lineFeed | .control => true
  | _ => false

end ClusterRole

namespace Cluster

/-- A pictograph with marks at the end of a text, and perhaps a joiner behind it. -/
inductive Picture where
  | absent
  | marked
  | joined
deriving DecidableEq, Repr

/-- A consonant with marks at the end of a text, and perhaps a linker among them. -/
inductive Conjunct where
  | absent
  | unlinked
  | linked
deriving DecidableEq, Repr

/-- What matters of the text before a place. -/
structure Before where
  role : ClusterRole
  picture : Picture
  conjunct : Conjunct
  /-- The regional characters at the end are odd in number. -/
  oddRegional : Bool
deriving DecidableEq, Repr

namespace Before

def start : Before := ⟨.control, .absent, .absent, false⟩

def pictureAfter (before : Before) : ClusterRole → Picture
  | .pictograph => .marked
  | .extend => if before.picture = .marked then .marked else .absent
  | .joiner => if before.picture = .marked then .joined else .absent
  | _ => .absent

def conjunctAfter (before : Before) (c : Char) : ClusterRole → Conjunct
  | .consonant => .unlinked
  | .joiner => before.conjunct
  | .extend =>
      if c = '\u200c' then .absent
      else if before.conjunct ≠ .absent ∧ ClusterRole.linkers.holds c then .linked
      else before.conjunct
  | _ => .absent

def push (before : Before) (c : Char) : Before :=
  let role := ClusterRole.ofChar c
  { role
    picture := before.pictureAfter role
    conjunct := before.conjunctAfter c role
    oddRegional := role == .regional && !before.oddRegional }

/-- Whether there is no boundary before a character of this role. -/
def joins (before : Before) (role : ClusterRole) : Bool :=
  match before.role, role with
  | .carriageReturn, .lineFeed => true
  | .leadJamo, .leadJamo | .leadJamo, .vowelJamo | .leadJamo, .openSyllable
  | .leadJamo, .closedSyllable => true
  | .openSyllable, .vowelJamo | .openSyllable, .tailJamo => true
  | .vowelJamo, .vowelJamo | .vowelJamo, .tailJamo => true
  | .closedSyllable, .tailJamo | .tailJamo, .tailJamo => true
  | last, next =>
      !last.isBreak && !next.isBreak &&
        (next == .extend || next == .joiner || next == .spacing || last == .leading ||
          (next == .consonant && before.conjunct == .linked) ||
          (next == .pictograph && before.picture == .joined) ||
          (next == .regional && before.oddRegional))

end Before

/-- Puts a character in front of the first of some clusters. -/
def consFirst (c : Char) : List (List Char) → List (List Char)
  | [] => [[c]]
  | first :: rest => (c :: first) :: rest

/-- The clusters of the text after a place, the first of them as far as it lies there. -/
def split (before : Before) : List Char → List (List Char)
  | [] => []
  | [c] => [[c]]
  | c :: next :: rest =>
      let before := before.push c
      let clusters := split before (next :: rest)
      if before.joins (ClusterRole.ofChar next) then consFirst c clusters else [c] :: clusters

def ofText (text : List Char) : List (List Char) := split .start text

theorem flatten_consFirst (c : Char) (clusters : List (List Char)) :
    (consFirst c clusters).flatten = c :: clusters.flatten := by
  cases clusters <;> rfl

theorem flatten_split (before : Before) (text : List Char) :
    (split before text).flatten = text := by
  fun_induction split before text with
  | case1 => rfl
  | case2 => rfl
  | case3 before c next rest after clusters joins ih =>
      rw [flatten_consFirst, ih]
  | case4 before c next rest after clusters joins ih =>
      rw [List.flatten_cons, ih]
      rfl

/-- Nothing of a text is lost in its clusters. -/
theorem flatten_ofText (text : List Char) : (ofText text).flatten = text := flatten_split _ _

end Cluster

end TimingBoard
