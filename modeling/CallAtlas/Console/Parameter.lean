import CallAtlas.Text.Basic
import CallAtlas.Text.Printable
import CallAtlas.Text.Word

/-! Parameters of tags that name an action: the action alone, an action with values in parentheses,
or values alone. The values have to be an expression. -/
namespace CallAtlas.Console.Parameter

inductive Token
  | word (name : String)
  | number
  | text
  | sign
  | operator
  | equals
  | comma
  | colon
  | opening (c : Char)
  | closing (c : Char)
deriving DecidableEq, Inhabited

abbrev Fault := String

private def unreadable : Fault := "invalid syntax"

private def wordOperators : List String :=
  ["and", "or", "in", "is", "if", "else", "for"]

private def wordToken (name : String) : Token :=
  if name == "not" then .sign else if wordOperators.contains name then .operator else .word name

private def isNumberPart (c : Char) : Bool :=
  Text.isWord c || c == '.'

private def closeText (quote : Char) : List Char → Option (List Char)
  | [] => none
  | '\\' :: _ :: cs => closeText quote cs
  | c :: cs => if c = quote then some cs else closeText quote cs

private def token (c : Char) (cs : List Char) : Except Fault (Token × List Char) :=
  if c = '\x27' ∨ c = '\x22' then
    match closeText c cs with
    | some rest => pure (.text, rest)
    | none => throw "unterminated string literal (detected at line 1)"
  else if c.isDigit then
    let rest := cs.takeWhile isNumberPart
    let known : List Char := ['e', 'E', 'x', 'o', 'b', 'j']
    if rest.any fun d => d.isAlpha && !known.contains d then
      throw "invalid decimal literal"
    else pure (.number, cs.dropWhile isNumberPart)
  else if Text.isWord c then
    pure (wordToken (String.ofList (c :: cs.takeWhile Text.isWord)), cs.dropWhile Text.isWord)
  else if ['(', '\x7b', '['].contains c then pure (.opening c, cs)
  else if [')', '\x7d', ']'].contains c then pure (.closing c, cs)
  else if ['+', '-', '~'].contains c then pure (.sign, cs)
  else if c = ',' then pure (.comma, cs)
  else if c = ':' then pure (.colon, cs)
  else if c = '=' ∧ cs.head? ≠ some '=' then pure (.equals, cs)
  else if ['*', '/', '%', '<', '>', '=', '&', '|', '^', '@', '.'].contains c then
    pure (.operator, cs.dropWhile ['*', '/', '<', '>', '='].contains)
  else if c.toNat < 128 then throw unreadable
  else
    let code := (Text.hex 8 c.toNat).dropWhile (· == '0') |>.map Char.toUpper
    let code := List.replicate (4 - code.length) '0' ++ code
    throw (if Text.isPrintable c then
        s!"invalid character '{c}' (U+" ++ String.ofList code ++ ")"
      else "invalid non-printable character U+" ++ String.ofList code)

private def tokens : Nat → List Char → Except Fault (List Token)
  | 0, _ => pure []
  | fuel + 1, cs =>
    match cs.dropWhile (fun c => c == ' ' || c == '\t' || c == '\x0c') with
    | [] => pure []
    | c :: cs => do
      let (t, rest) ← token c cs
      return t :: (← tokens fuel rest)

private def partner (c : Char) : Char :=
  if c = '(' then ')' else if c = '[' then ']' else '\x7d'

structure Reading where
  brackets : List Char := []
  last : Option Token := none
deriving Inhabited

namespace Reading

private def complete (r : Reading) : Bool :=
  match r.last with
  | some (.word _) | some .number | some .text | some (.closing _) => true
  | _ => false

private def go (r : Reading) (t : Token) : Reading :=
  { r with last := some t }

private def adjacent (r : Reading) : Fault :=
  if r.brackets.isEmpty then unreadable else "invalid syntax. Perhaps you forgot a comma?"

private def operand (r : Reading) (t : Token) : Except Fault Reading :=
  if r.complete && !(t == .text && r.last == some .text) then throw r.adjacent else pure (r.go t)

def next (r : Reading) (t : Token) : Except Fault Reading :=
  match t with
  | .word _ | .number | .text => r.operand t
  | .sign => pure (r.go t)
  | .operator | .colon => if r.complete then pure (r.go t) else throw unreadable
  | .comma => if r.complete then pure (r.go t) else throw unreadable
  | .equals =>
    match r.last, r.brackets with
    | some (.word _), _ :: _ => throw "invalid syntax. Maybe you meant '==' or ':=' instead of '='?"
    | _, _ => throw unreadable
  | .opening c =>
    if r.complete && c == '\x7b' then throw r.adjacent
    else pure { brackets := c :: r.brackets, last := some t }
  | .closing c =>
    match r.brackets with
    | [] => throw s!"unmatched '{c}'"
    | open_ :: rest =>
      if partner open_ ≠ c then
        throw s!"closing parenthesis '{c}' does not match opening parenthesis '{open_}'"
      else if r.complete || r.last == some .comma || r.last == some (.opening open_) then
        pure { brackets := rest, last := some t }
      else throw unreadable

def finish (r : Reading) : Except Fault Unit :=
  match r.brackets with
  | open_ :: _ => throw s!"'{open_}' was never closed"
  | [] => if r.complete || r.last == some .comma then pure () else throw unreadable

end Reading

def check (cs : List Char) : Except Fault Unit := do
  let ts ← tokens (cs.length + 1) cs
  let r ← ts.foldlM Reading.next ({} : Reading)
  r.finish

def values (cs : List Char) : List Char :=
  let rest := cs.dropWhile fun c => Text.isWord c || c == '.'
  if rest.isEmpty then ['(', ')']
  else if rest.head? == some '(' && rest.getLast? == some ')' then rest
  else cs

end CallAtlas.Console.Parameter
