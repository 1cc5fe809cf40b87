import TimingBoard.Session.Picture

namespace TimingBoard.MenuPicture

/-! The topic menu as cells: a box with a title, and in it the topics.

A topic has a row for each of its lines.  In front of its first line stands a marker if it is
selected, and its rows have a style of their own. -/

def title : String := " Select a ProcessingTimeTree topic "

def help : String := "↑/↓ or j/k: move | Enter: subscribe | q/Esc: cancel"

def selectedStyle : Style := { foreground := .black, background := .cyan, bold := true }

def marker : String := "> "

def noMarker : String := "  "

/-- A row between two borders.  The left one is drawn last. -/
def bordered (left right : String) (width : Nat) (middle : List Cell) : List Cell :=
  match width with
  | 0 => []
  | 1 => [{ symbol := left }]
  | _ => { symbol := left } :: middle ++ [{ symbol := right }]

/-- The top of the box.  The title begins in its second cell. -/
def top (width : Nat) : List Cell :=
  let shown := (Glyph.fit (width - 2) (Glyph.ofText title)).flatMap (Picture.glyphCells {})
  bordered "┌" "┐" width
    (shown ++ List.replicate (width - 2 - shown.length) { symbol := "─" })

def bottom (width : Nat) : List Cell :=
  bordered "└" "┘" width (List.replicate (width - 2) { symbol := "─" })

def emptyRow (width : Nat) : List Cell := bordered "│" "│" width (List.replicate (width - 2) {})

/-- Empties so many cells from a place on. -/
def clear (place : Nat) : (count : Nat) → List Cell → List Cell
  | 0, row => row
  | count + 1, row => clear (place + 1) count (row.modify place fun _ => {})

/-- Writes glyphs into the cells from `first` on, up to the first glyph that does not fit before
`last`.  A glyph without a width shares the cell before it, and the first cell is shared by all that
is written to it. -/
def write (first last : Nat) : (place : Nat) → (fresh : Bool) → List Glyph → List Cell → List Cell
  | _, _, [], row => row
  | place, fresh, glyph :: rest, row =>
      if last < place + glyph.width then row
      else
        let put (cell : Cell) : Cell := { cell with symbol := glyph.text }
        let join (cell : Cell) : Cell := { cell with symbol := cell.symbol ++ glyph.text }
        let row :=
          if fresh then row.modify place put
          else if place = first then row.modify place join
          else if glyph.width = 0 then row.modify (place - 1) join
          else row.modify place put
        write first last (place + glyph.width) false rest (clear (place + 1) (glyph.width - 1) row)

/-- Writes a line into the cells between two places.  A line without a width is not written. -/
def writeLine (first last : Nat) (line : String) (row : List Cell) : List Cell :=
  if first < last ∧ 0 < Width.ofText line.toList then
    write first last first true (Glyph.ofText line) row
  else row

/-- A row of a topic.  The marker is written over whatever is there. -/
def topicRow (width : Nat) (selected first : Bool) (line : String) : List Cell :=
  let row := writeLine 3 (width - 1) line (emptyRow width)
  let row :=
    if selected then
      row.mapIdx fun place cell =>
        if 0 < place ∧ place + 1 < width then { cell with style := selectedStyle } else cell
    else row
  writeLine 1 (min 3 width) (if selected && first then marker else noMarker) row

/-- The lines of a topic; there is at least one. -/
def linesOf (topic : String) : List String :=
  match Picture.lines topic with
  | [] => [""]
  | lines => lines

def topicRows (width : Nat) (selected : Bool) (topic : String) : Picture :=
  (linesOf topic).mapIdx fun place line => topicRow width selected (place = 0) line

/-! Which topics are in view. -/

/-- Topics in view, from `first` up to but without `last`. -/
structure Window where
  first : Nat
  last : Nat
  /-- How many rows they take. -/
  rows : Nat
deriving DecidableEq, Repr

namespace Window

/-- As many topics from the first on as have room. -/
def fill (room : Nat) : (window : Window) → (heights : List Nat) → Window
  | window, [] => window
  | window, height :: rest =>
      if room < window.rows + height then window
      else fill room { window with last := window.last + 1, rows := window.rows + height } rest

variable (room : Nat) (heights : Nat → Nat)

/-- Gives up topics at the top until the others have room. -/
def dropTop : (count : Nat) → Window → Window
  | 0, window => window
  | count + 1, window =>
      if room < window.rows then
        dropTop count
          { window with first := window.first + 1, rows := window.rows - heights window.first }
      else window

/-- Gives up topics at the bottom until the others have room. -/
def dropBottom : (count : Nat) → Window → Window
  | 0, window => window
  | count + 1, window =>
      if room < window.rows then
        dropBottom count
          { window with
            last := window.last - 1
            rows := window.rows - heights (window.last - 1) }
      else window

/-- Takes in so many topics at the bottom. -/
def extendDown : (count : Nat) → Window → Window
  | 0, window => window
  | count + 1, window =>
      extendDown count <| dropTop room heights (window.last + 1)
        { window with last := window.last + 1, rows := window.rows + heights window.last }

/-- Takes in so many topics at the top. -/
def extendUp : (count : Nat) → Window → Window
  | 0, window => window
  | count + 1, window =>
      extendUp count <| dropBottom room heights window.last
        { window with
          first := window.first - 1
          rows := window.rows + heights (window.first - 1) }

end Window

/-- The topics in view: from the first one on, but scrolled as little as shows the selected one.  A
topic that has no room is not shown. -/
def window (room : Nat) (heights : List Nat) (selected : Nat) : Window :=
  let height (place : Nat) : Nat := heights.getD place 0
  let filled := Window.fill room ⟨0, 0, 0⟩ heights
  let down := Window.extendDown room height (selected + 1 - filled.last) filled
  Window.extendUp room height (down.first - selected) down

/-- The rows inside the box.  A selection past the end is the last topic. -/
def body (width room : Nat) (menu : TopicMenu) : Picture :=
  let selected := min menu.selected (menu.topics.length - 1)
  let heights := menu.topics.map fun topic => (linesOf topic).length
  let window := window room heights selected
  let shown := (menu.topics.take window.last).drop window.first
  let rows := (shown.mapIdx fun place topic =>
    topicRows width (window.first + place = selected) topic).flatten
  let rows := if width ≤ 2 ∨ menu.topics.isEmpty then [] else rows
  rows ++ List.replicate (room - rows.length) (emptyRow width)

def picture (width height : Nat) (menu : TopicMenu) : Picture :=
  top width :: body width (height - 3) menu ++
    [bottom width, Picture.row Picture.helpStyle width help]

end MenuPicture

def Screen.rows (width height : Nat) : Screen → Picture
  | .trees screen => Picture.trees width height screen
  | .menu choice => MenuPicture.picture width height choice

/-- A screen of at least three rows, or of four for a menu. -/
def Screen.picture (width height : Nat) (screen : Screen) : Picture :=
  (screen.rows width height).map (Picture.uncovered 0)

end TimingBoard
