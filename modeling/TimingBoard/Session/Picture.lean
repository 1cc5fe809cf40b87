import TimingBoard.Session.Screen
import TimingBoard.Text.Glyph

namespace TimingBoard

/-! Screens as cells.

The last row of a picture is the key help.  Text is cut at the right and at the bottom, and never
wrapped. -/

inductive Color where
  | own
  | black
  | cyan
  | darkGray
deriving DecidableEq, Repr

structure Style where
  foreground : Color := .own
  background : Color := .own
  bold : Bool := false
deriving DecidableEq, Repr

structure Cell where
  /-- An empty symbol is shown as a blank. -/
  symbol : String := ""
  style : Style := {}
deriving DecidableEq, Repr

def Cell.text (cell : Cell) : String := if cell.symbol = "" then " " else cell.symbol

/-- How many cells the symbol of this one covers besides. -/
def Cell.covers (cell : Cell) : Nat := Width.ofText cell.text.toList - 1

abbrev Picture := List (List Cell)

namespace Picture

/-- What becomes of a row: cells that are covered by the one before them are not drawn. -/
def uncovered : (covered : Nat) → List Cell → List Cell
  | _, [] => []
  | covered + 1, _ :: rest => {} :: uncovered covered rest
  | 0, cell :: rest => cell :: uncovered cell.covers rest

def statusStyle : Style := { foreground := .cyan }

def helpStyle : Style := { foreground := .darkGray }

def treeHelp : String := "c: comments | s: summarize | y: copy | q: quit | r: quit + copy report"

/-- A wide glyph is followed by an empty cell. -/
def glyphCells (style : Style) (glyph : Glyph) : List Cell :=
  ⟨glyph.text, style⟩ :: List.replicate (glyph.width - 1) { style := style }

/-- As much of some glyphs as fits, and empty cells. -/
def span (style : Style) (width : Nat) (glyphs : List Glyph) : List Cell :=
  let shown := (Glyph.fit width glyphs).flatMap (glyphCells style)
  shown ++ List.replicate (width - shown.length) { style := style }

/-- A row of text.  Glyphs without a width and glyphs wider than the row are passed over. -/
def row (style : Style) (width : Nat) (text : String) : List Cell :=
  span style width <|
    (Glyph.ofText text).filter fun glyph => 0 < glyph.width && glyph.width ≤ width

/-- The lines of a text.  A line ends at a line feed, with or without a carriage return. -/
def linesOf : List Char → List (List Char)
  | [] => []
  | chars =>
      let parts := chars.splitOn '\n'
      let ended := parts.dropLast.map fun line =>
        if line.getLast? = some '\r' then line.dropLast else line
      match parts.getLast? with
      | none | some [] => ended
      | some rest => ended ++ [rest]

def lines (text : String) : List String := (linesOf text.toList).map String.ofList

/-- A text that may show its first line only. -/
def singleRow (style : Style) (width : Nat) (text : String) : List Cell :=
  row style width ((lines text).headD "")

def trees (width height : Nat) (screen : TreeScreen) : Picture :=
  let body := (lines screen.text).take (height - 2)
  body.map (row {} width) ++ List.replicate (height - 2 - body.length) (row {} width "") ++
    [singleRow statusStyle width screen.status, row helpStyle width treeHelp]

end Picture

end TimingBoard
