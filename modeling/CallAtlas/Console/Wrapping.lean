import CallAtlas.Text.Basic
import CallAtlas.Text.Width

/-! Bringing text into lines of limited width. Lines end between words where they can. -/
namespace CallAtlas.Console

open Text (isBlank width)

def tabStop : Nat := 8

private def tabulate (column : Nat) : List (List Char) → List Char
  | [] => []
  | [part] => part
  | part :: rest =>
    let part := part ++ [' ']
    let reached := column + width part
    let fill := (tabStop - reached % tabStop) % tabStop
    part ++ List.replicate fill ' ' ++ tabulate (reached + fill) rest

def untabbed (line : List Char) : List Char :=
  tabulate 0 (Text.parts (· == '\t') line)

/-- A word begins where a blank is followed by another character. -/
private def joinWord (c : Char) : List (List Char) → List (List Char)
  | (d :: word) :: rest =>
    if isBlank c && !isBlank d then [c] :: (d :: word) :: rest else (c :: d :: word) :: rest
  | rest => [c] :: rest

/-- The words of a line, each with the blanks behind it. Blanks in front belong to the first word. -/
def words (line : List Char) : List (List Char) :=
  match line.foldr joinWord [] with
  | first :: second :: rest =>
    if first.all isBlank then (first ++ second) :: rest else first :: second :: rest
  | all => all

inductive Overflow
  | fold
  /-- It is cut, and an ellipsis stands for the rest. -/
  | ellipsis
deriving DecidableEq, Inhabited

def chopped (limit : Nat) (cs : List Char) : List (List Char) :=
  let (done, last, _) := (Text.clusters cs).foldl
    (fun (done, line, size) k =>
      if limit < size + k.width then (line :: done, k.chars, k.width)
      else (done, line ++ k.chars, size + k.width))
    (([] : List (List Char)), [], 0)
  (last :: done).reverse

structure Filling where
  finished : List (List Char) := []
  line : List Char := []
  used : Nat := 0
deriving DecidableEq, Inhabited

namespace Filling

def renew (f : Filling) (start : List Char) : Filling :=
  { finished := if f.line.isEmpty then f.finished else f.line :: f.finished
    line := start
    used := width start }

/-- The blanks behind a word need no room. -/
def place (overflow : Overflow) (limit : Nat) (f : Filling) (word : List Char) : Filling :=
  let needed := width (Text.dropTrailing isBlank word)
  if f.used + needed ≤ limit then
    { f with line := f.line ++ word, used := f.used + width word }
  else if limit < needed ∧ overflow = .fold then (chopped limit word).foldl renew f
  else f.renew word

def lines (f : Filling) : List (List Char) :=
  (f.line :: f.finished).reverse

end Filling

/-- A line of too many characters loses blanks at its end. -/
private def shed (limit : Nat) (line : List Char) : List Char :=
  let trailing := line.length - (Text.dropTrailing isBlank line).length
  line.take (line.length - min trailing (line.length - limit))

def fitted (overflow : Overflow) (limit : Nat) (line : List Char) : List Char :=
  if width line ≤ limit then line
  else
    match overflow with
    | .fold => Text.cropped limit line
    | .ellipsis => Text.cropped (limit - 1) line ++ ['…']

def wrapped (overflow : Overflow) (limit : Nat) (line : List Char) : List (List Char) :=
  let filled := (words (untabbed line)).foldl (Filling.place overflow limit) {}
  filled.lines.map fun l => fitted overflow limit (shed limit l)

def linesOf (overflow : Overflow) (limit : Nat) (cs : List Char) : List (List Char) :=
  (Text.parts (· == '\n') cs).flatMap (wrapped overflow limit)

end CallAtlas.Console
