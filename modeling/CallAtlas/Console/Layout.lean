import CallAtlas.Console.Markup
import CallAtlas.Console.Wrapping
import CallAtlas.Number.Double

namespace CallAtlas.Console

open Text (isBlank width)

def terminalWidth : Nat := 500

/-- Halves of surrogate pairs cannot be printed. -/
private def printed (cs : List Char) : Except Failure String :=
  match Text.Half.run? cs with
  | some (position, units) => throw (.unprintable position units)
  | none => pure (String.ofList cs)

def print (s : String) : Except Failure String := do
  let lines := linesOf .fold terminalWidth (← plain s)
  printed (['\n'].intercalate lines ++ ['\n'])

structure Column where
  heading : String
  numeric : Bool := false
  entries : List String := []
deriving DecidableEq, Inhabited

structure Stack where
  numeric : Bool
  cells : List (List Char)
deriving DecidableEq, Inhabited

def Column.stack (c : Column) : Except Failure Stack := do
  return ⟨c.numeric, c.heading.toList :: (← c.entries.mapM plain)⟩

private def isLineEnd (c : Char) : Bool :=
  [0x0A, 0x1C, 0x1D, 0x1E, 0x85, 0x2028, 0x2029].contains c.toNat

def cellWidth (cell : List Char) : Nat :=
  ((Text.parts isLineEnd cell).map width).foldl max 0 + 2

def Stack.width (limit : Nat) (s : Stack) : Nat :=
  (s.cells.map fun cell => min limit (cellWidth cell)).foldl max 0

/-- Takes from each of the `count` widest columns its share of `excess`, which is `cap` at most. -/
def lowered (widest cap : Nat) : Nat → Nat → List Nat → List Nat
  | _, _, [] => []
  | excess, count, w :: ws =>
    if w = widest then
      let share := min cap (Double.roundedQuotient excess count)
      (w - share) :: lowered widest cap (excess - share) (count - 1) ws
    else w :: lowered widest cap excess count ws

private def total (widths : List Nat) : Nat :=
  widths.foldl (· + ·) 0

/-- Lowers the widest columns to the width of the next until all have room. Every round takes away
something, so the rounds suffice. -/
def collapsed (limit : Nat) : Nat → List Nat → List Nat
  | 0, widths => widths
  | fuel + 1, widths =>
    let excess := total widths - limit
    let widest := widths.foldl max 0
    let second := (widths.filter (· != widest)).foldl max 0
    if excess = 0 ∨ widest = second then widths
    else
      let count := (widths.filter (· == widest)).length
      collapsed limit fuel (lowered widest (min excess (widest - second)) excess count widths)

def columnWidths (limit : Nat) (piles : List Stack) : List Nat :=
  let widths := piles.map (Stack.width limit)
  collapsed limit (total widths - limit) widths

private def blanks (n : Nat) : List Char :=
  List.replicate n ' '

private def filled (room : Nat) (line : List Char) : List Char :=
  line ++ blanks (room - width line)

/-- A line brought to a width, numbers to the right. A joiner at the end of a line swallows a blank,
so the width is looked at twice. -/
def justified (numeric : Bool) (room : Nat) (line : List Char) : List Char :=
  if numeric then
    let line := Text.dropTrailing isBlank line
    filled room (blanks (room - width line) ++ line)
  else filled room (filled room line)

def cellLines (numeric : Bool) (room : Nat) (cell : List Char) : List (List Char) :=
  (linesOf .ellipsis room cell).map fun line => ' ' :: justified numeric room line ++ [' ']

structure Rule where
  left : Char
  stroke : Char
  crossing : Char
  right : Char

def topRule : Rule := ⟨'┏', '━', '┳', '┓'⟩
def headRule : Rule := ⟨'┡', '━', '╇', '┩'⟩
def bottomRule : Rule := ⟨'└', '─', '┴', '┘'⟩

private def joined (left middle right : Char) (parts : List (List Char)) : List Char :=
  left :: ([middle].intercalate parts) ++ [right, '\n']

def Rule.draw (r : Rule) (widths : List Nat) : List Char :=
  joined r.left r.crossing r.right (widths.map fun w => List.replicate w r.stroke)

def drawRow (bar : Char) (piles : List Stack) (widths : List Nat) (i : Nat) : List Char :=
  let cells := (piles.zip widths).map fun (s, w) =>
    (cellLines s.numeric (w - 2) ((s.cells[i]?).getD []), w)
  let height := (cells.map (·.1.length)).foldl max 0
  (List.range height).flatMap fun n =>
    joined bar bar bar (cells.map fun (lines, w) => (lines[n]?).getD (blanks w))

def drawTable (piles : List Stack) (count : Nat) : List Char :=
  let widths := columnWidths (terminalWidth - (piles.length + 1)) piles
  topRule.draw widths ++ drawRow '┃' piles widths 0 ++ headRule.draw widths
    ++ (List.range count).flatMap (fun i => drawRow '│' piles widths (i + 1))
    ++ bottomRule.draw widths

def table (columns : List Column) : Except Failure String := do
  let piles ← columns.mapM Column.stack
  let count := (columns.map (·.entries.length)).foldl max 0
  printed (drawTable piles count)

end CallAtlas.Console
