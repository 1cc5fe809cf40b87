import TimingBoard.Text.Cluster

namespace TimingBoard.Width

/-! How many cells of a terminal a text takes.

Most characters take one cell, wide ones two, and marks none.  Some sequences are drawn as one, so a
text is read from its end: what follows a character can change its width. -/

def wide : CodePoints :=
  [(0x1100, 0x115f), (0x231a, 0x231b), (0x2329, 0x232a), (0x23e9, 0x23ec), (0x23f0, 0x23f0),
   (0x23f3, 0x23f3), (0x25fd, 0x25fe), (0x2614, 0x2615), (0x2630, 0x2637), (0x2648, 0x2653),
   (0x267f, 0x267f), (0x268a, 0x268f), (0x2693, 0x2693), (0x26a1, 0x26a1), (0x26aa, 0x26ab),
   (0x26bd, 0x26be), (0x26c4, 0x26c5), (0x26ce, 0x26ce), (0x26d4, 0x26d4), (0x26ea, 0x26ea),
   (0x26f2, 0x26f3), (0x26f5, 0x26f5), (0x26fa, 0x26fa), (0x26fd, 0x26fd), (0x2705, 0x2705),
   (0x270a, 0x270b), (0x2728, 0x2728), (0x274c, 0x274c), (0x274e, 0x274e), (0x2753, 0x2755),
   (0x2757, 0x2757), (0x2795, 0x2797), (0x27b0, 0x27b0), (0x27bf, 0x27bf), (0x2b1b, 0x2b1c),
   (0x2b50, 0x2b50), (0x2b55, 0x2b55), (0x2e80, 0x2e99), (0x2e9b, 0x2ef3), (0x2f00, 0x2fd5),
   (0x2ff0, 0x3029), (0x3030, 0x303e), (0x3041, 0x3096), (0x309b, 0x30ff), (0x3105, 0x312f),
   (0x3131, 0x3163), (0x3165, 0x318e), (0x3190, 0x31e5), (0x31ef, 0x321e), (0x3220, 0x3247),
   (0x3250, 0xa48c), (0xa490, 0xa4c6), (0xa960, 0xa97c), (0xac00, 0xd7a3), (0xf900, 0xfaff),
   (0xfe10, 0xfe19), (0xfe30, 0xfe52), (0xfe54, 0xfe66), (0xfe68, 0xfe6b), (0xff01, 0xff60),
   (0xffe0, 0xffe6), (0x16fe0, 0x16fe3), (0x16ff2, 0x16ff6), (0x17000, 0x18cd5),
   (0x18cff, 0x18d1e), (0x18d80, 0x18df2), (0x1aff0, 0x1aff3), (0x1aff5, 0x1affb),
   (0x1affd, 0x1affe), (0x1b000, 0x1b122), (0x1b132, 0x1b132), (0x1b150, 0x1b152),
   (0x1b155, 0x1b155), (0x1b164, 0x1b167), (0x1b170, 0x1b2fb), (0x1d300, 0x1d356),
   (0x1d360, 0x1d376), (0x1f004, 0x1f004), (0x1f0cf, 0x1f0cf), (0x1f18e, 0x1f18e),
   (0x1f191, 0x1f19a), (0x1f200, 0x1f202), (0x1f210, 0x1f23b), (0x1f240, 0x1f248),
   (0x1f250, 0x1f251), (0x1f260, 0x1f265), (0x1f300, 0x1f320), (0x1f32d, 0x1f335),
   (0x1f337, 0x1f37c), (0x1f37e, 0x1f393), (0x1f3a0, 0x1f3ca), (0x1f3cf, 0x1f3d3),
   (0x1f3e0, 0x1f3f0), (0x1f3f4, 0x1f3f4), (0x1f3f8, 0x1f43e), (0x1f440, 0x1f440),
   (0x1f442, 0x1f4fc), (0x1f4ff, 0x1f53d), (0x1f54b, 0x1f54e), (0x1f550, 0x1f567),
   (0x1f57a, 0x1f57a), (0x1f595, 0x1f596), (0x1f5a4, 0x1f5a4), (0x1f5fb, 0x1f64f),
   (0x1f680, 0x1f6c5), (0x1f6cc, 0x1f6cc), (0x1f6d0, 0x1f6d2), (0x1f6d5, 0x1f6d8),
   (0x1f6dc, 0x1f6df), (0x1f6eb, 0x1f6ec), (0x1f6f4, 0x1f6fc), (0x1f7e0, 0x1f7eb),
   (0x1f7f0, 0x1f7f0), (0x1f90c, 0x1f93a), (0x1f93c, 0x1f945), (0x1f947, 0x1f9ff),
   (0x1fa70, 0x1fa7c), (0x1fa80, 0x1fa8a), (0x1fa8e, 0x1fac6), (0x1fac8, 0x1fac8),
   (0x1facd, 0x1fadc), (0x1fadf, 0x1faea), (0x1faef, 0x1faf8), (0x20000, 0x2fffd),
   (0x30000, 0x3fffd)]

/-- Jamos inside a syllable, and signs drawn over or into their neighbours. -/
def overlaid : CodePoints :=
  [(0x605, 0x605), (0x70f, 0x70f), (0x890, 0x891), (0x8e2, 0x8e2), (0xd4e, 0xd4e),
   (0x1160, 0x11ff), (0xa8fa, 0xa8fa), (0xd7b0, 0xd7c6), (0xd7cb, 0xd7fb), (0x111c2, 0x111c3),
   (0x113d1, 0x113d1), (0x1193f, 0x1193f), (0x11941, 0x11941), (0x11a84, 0x11a89),
   (0x11d46, 0x11d46), (0x11f02, 0x11f02)]

/-- Khmer letters that have a form below another letter. -/
def subscriptLetters : CodePoints :=
  [(0x1780, 0x1782), (0x1784, 0x1787), (0x1789, 0x178c), (0x178e, 0x1793), (0x1795, 0x1798),
   (0x179b, 0x179d), (0x17a0, 0x17a0), (0x17a2, 0x17a2), (0x17a7, 0x17a7), (0x17ab, 0x17ac),
   (0x17af, 0x17af)]

/-- Marks that stand between the parts of one sign without dividing it. -/
def transparent : CodePoints :=
  [(0x34f, 0x34f), (0x17b4, 0x17b5), (0x180b, 0x180d), (0x180f, 0x180f), (0x200d, 0x200d),
   (0xfe00, 0xfe0f), (0xe0100, 0xe01ef)]

def isQuote (c : Char) : Bool :=
  c == '\u2018' || c == '\u2019' || c == '\u201c' || c == '\u201d'

/-- Code points without a character take no cell, unless their whole block is wide. -/
def isZero (c : Char) : Bool :=
  ClusterRole.ignorable.holds c || GeneralCategory.ofChar c == .mn ||
    GeneralCategory.ofChar c == .me || ClusterRole.otherExtending.holds c ||
    overlaid.holds c || GeneralCategory.ofChar c == .cn && !wide.holds c

def ofChar (c : Char) : Nat :=
  if c < '\u00a0' then 1
  else if c = '\u17d8' then 3
  else if c = '\u115f' ∨ c = '\u17a4' then 2
  else if c = '\u2d7f' then 1
  else if isZero c then 0
  else if wide.holds c then 2
  else 1

/-- What follows a character, as far as it matters for the character's width. -/
inductive Following where
  | plain
  | lineFeed
  /-- A selector for text. -/
  | textSelector
  /-- A selector for color.  Behind it, joined pictures may go on. -/
  | colorSelector (joined : Bool)
  /-- A selector for quotes in wide form. -/
  | wideSelector
  | picture
  | modifier
  /-- A joiner and a picture. -/
  | joined
  /-- A keycap, a joiner and a picture. -/
  | joinedKeycap
  /-- The end of a flag that is spelled out, after so many of its letters, and a joined picture. -/
  | joinedTag (letters : Nat)
  | regional
  | regionals
  /-- A Khmer letter that can be written below another one. -/
  | subscriptLetter
  /-- The second half of a Kirat Rai vowel. -/
  | vowelE
  | vowelAi
deriving DecidableEq, Repr

/-- A character by itself, and what it is to the one before it. -/
def alone (c : Char) : Int × Following :=
  match c.toNat with
  | 0x0a => (1, .lineFeed)
  | 0xfe0f => (0, .colorSelector false)
  | 0xfe0e => (0, .textSelector)
  | 0xfe01 => (0, .wideSelector)
  | 0x16d67 => (1, .vowelE)
  | 0x16d68 => (1, .vowelAi)
  | _ =>
      if ClusterRole.regionalIndicators.holds c then (1, .regional)
      else if Emoji.isModifier c then (2, .modifier)
      else if Emoji.isColored c then (2, .picture)
      else if subscriptLetters.holds c then (1, .subscriptLetter)
      else (ofChar c, .plain)

/-- A character in front of a joiner and a picture. -/
def beforeJoined (c : Char) : Int × Following :=
  match c.toNat with
  | 0xfe0f => (0, .colorSelector true)
  | 0x20e3 => (0, .joinedKeycap)
  | 0xe007f => (0, .joinedTag 0)
  | _ =>
      if Emoji.isModifier c then (0, .modifier)
      else if Emoji.isColored c then (0, .picture)
      else alone c

/-- A letter of a flag that is spelled out, or the flag in front of them. -/
def beforeTag (c : Char) (letters : Nat) : Int × Following :=
  if 0xe0061 ≤ c.toNat ∧ c.toNat ≤ 0xe007a then (0, .joinedTag (letters + 1))
  else if c.toNat = 0x1f3f4 ∧ 3 ≤ letters ∧ letters ≤ 6 then (0, .picture)
  else alone c

/-- What a character adds to the width of the text that follows it, and what it is to the one before
it. -/
def before (c : Char) : Following → Int × Following
  | .plain => alone c
  | .lineFeed => if c = '\r' then (0, .plain) else alone c
  | .colorSelector joined =>
      if Emoji.isSelectable c then (if joined then 0 else 2, .picture) else alone c
  | .textSelector => if Emoji.isNarrowedByText c then (1, .plain) else alone c
  | .wideSelector => if isQuote c then (2, .plain) else alone c
  | .picture => if c = '\u200d' then (0, .joined) else alone c
  | .modifier =>
      if c = '\u200d' then (0, .joined)
      else if Emoji.toneBases.holds c then (0, .picture)
      else alone c
  | .joined => beforeJoined c
  | .joinedKeycap => if c = '\ufe0f' then (0, .colorSelector true) else alone c
  | .joinedTag letters => beforeTag c letters
  | .regional => if ClusterRole.regionalIndicators.holds c then (1, .regionals) else alone c
  | .regionals =>
      if c = '\u200d' then (0, .joined)
      else if ClusterRole.regionalIndicators.holds c then (1, .regionals)
      else alone c
  | .subscriptLetter =>
      if c = '\u17d2' then (-1, .plain)
      else if transparent.holds c then (0, .subscriptLetter)
      else alone c
  | .vowelE =>
      match c.toNat with
      | 0x16d63 | 0x16d69 => (0, .plain)
      | 0x16d67 => (0, .vowelAi)
      | 0x16d68 => (1, .vowelE)
      | _ => alone c
  | .vowelAi => if c.toNat = 0x16d63 then (0, .plain) else alone c

def ofText (text : List Char) : Nat :=
  (text.foldr (fun c (sum, following) =>
    ((before c following).1 + sum, (before c following).2)) ((0, .plain) : Int × Following)).1.toNat

end TimingBoard.Width
