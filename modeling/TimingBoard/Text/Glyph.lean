import TimingBoard.Text.Width

namespace TimingBoard

/-! Text as it is put into the cells of a terminal.

A glyph is a cluster with its width.  Control characters are not shown. -/

structure Glyph where
  text : String
  width : Nat
deriving DecidableEq, Repr

namespace Glyph

def ofCluster (cluster : List Char) : Glyph := ⟨String.ofList cluster, Width.ofText cluster⟩

def isControl (c : Char) : Bool := GeneralCategory.ofChar c == .cc

def ofText (text : String) : List Glyph :=
  ((Cluster.ofText text.toList).filter fun cluster => !cluster.any isControl).map ofCluster

/-- The glyphs that fit, up to the first one that does not. -/
def fit : (room : Nat) → List Glyph → List Glyph
  | _, [] => []
  | room, glyph :: rest =>
      if glyph.width ≤ room then glyph :: fit (room - glyph.width) rest else []

end Glyph

end TimingBoard
