import CallAtlas.Console.Parameter
import CallAtlas.Console.Picture
import CallAtlas.Console.Style

/-! Text with markup: styles are switched on and off by tags in square brackets, and a backslash in
front of a tag makes it ordinary text. Without colours only the text is left. -/
namespace CallAtlas.Console

inductive Piece
  | text (cs : List Char)
  /-- A tag that is ordinary text, or backslashes in front of a tag. -/
  | escaped (cs : List Char)
  /-- What stands between the brackets of a tag, and where the tag begins. -/
  | tag (content : List Char) (position : Nat)
deriving DecidableEq, Inhabited

def opensTag (c : Char) : Bool :=
  decide ('a' ≤ c ∧ c ≤ 'z') || c == '#' || c == '/' || c == '@'

def tag? : List Char → Option (List Char × List Char)
  | '[' :: c :: cs =>
    let inside := cs.takeWhile fun d => d != '[' && d != ']'
    match cs.dropWhile fun d => d != '[' && d != ']' with
    | ']' :: rest => if opensTag c then some (c :: inside, rest) else none
    | _ => none
  | _ => none

theorem tag?_length {cs content rest : List Char} (h : tag? cs = some (content, rest)) :
    rest.length < cs.length := by
  unfold tag? at h
  split at h
  · next c cs =>
    dsimp only at h
    split at h
    · next after he =>
      split at h
      · cases h
        have hs := (List.dropWhile_sublist (fun d => d != '[' && d != ']') (l := cs)).length_le
        rw [he, List.length_cons] at hs
        rw [List.length_cons, List.length_cons]
        omega
      · cases h
    · cases h
  · cases h

private def slash (c : Char) : Bool :=
  c == '\\'

private theorem length_after (c : Char) (rest : List Char) :
    (rest.dropWhile slash).length ≤ (c :: rest).length :=
  Nat.le_succ_of_le (List.dropWhile_sublist slash).length_le

/-- Puts text in front of pieces; text that follows it directly is one piece with it. -/
private def withText (cs : List Char) : List Piece → List Piece
  | .text ds :: rest => .text (cs ++ ds) :: rest
  | rest => .text cs :: rest

/-- Half of the backslashes in front of a tag are kept, and an odd one makes the tag text. -/
def pieces (position : Nat) (cs : List Char) : List Piece :=
  match cs with
  | [] => []
  | c :: rest =>
    if c = '\\' then
      let slashes := c :: rest.takeWhile slash
      let after := rest.dropWhile slash
      let n := slashes.length
      match h : tag? after with
      | some (content, behind) =>
        have := Nat.lt_of_lt_of_le (tag?_length h) (length_after c rest)
        let next := position + n + (content.length + 2)
        let tag : Piece := if n % 2 = 1 then .escaped ('[' :: content ++ [']'])
          else .tag content (position + n)
        .escaped (slashes.take (n / 2)) :: tag :: pieces next behind
      | none => withText slashes (pieces (position + n) after)
    else
      match h : tag? (c :: rest) with
      | some (content, behind) =>
        have := tag?_length h
        .tag content position :: pieces (position + (content.length + 2)) behind
      | none => withText [c] (pieces (position + 1) rest)
termination_by cs.length
decreasing_by
  · assumption
  · exact Nat.lt_succ_of_le (List.dropWhile_sublist slash).length_le
  · assumption
  · exact Nat.lt_succ_self _

def unescaped : List Char → List Char
  | [] => []
  | c :: cs => if c = '\\' ∧ cs.head? = some '[' then unescaped cs else c :: unescaped cs

def shownText (cs : List Char) : List Char :=
  pictured (unescaped cs)

structure OpenTag where
  name : String
  parameter : Option (List Char)
deriving DecidableEq, Inhabited

namespace OpenTag

def ofContent (content : List Char) : Except Failure OpenTag := do
  let name ← Style.nameOf (content.takeWhile (· != '='))
  return ⟨name, ((content.dropWhile (· != '=')).tail?)⟩

def isAction (t : OpenTag) : Bool :=
  t.name.startsWith "@"

/-- The parameter of an action has to make sense by the time it ends. -/
def checkAction (t : OpenTag) : Except Failure Unit :=
  match t.isAction, t.parameter with
  | true, some parameter =>
    let values := Parameter.values (Text.trim parameter)
    match Parameter.check values with
    | .ok () => pure ()
    | .error fault =>
      if parameter.isEmpty then pure ()
      else throw (.markupParameter (String.ofList values) (String.ofList parameter) fault)
  | _, _ => pure ()

/-- A style with its parameter is read as a style once more. What is none has no effect. -/
def checkStyle (t : OpenTag) : Except Failure Unit :=
  match t.isAction, t.parameter with
  | false, some parameter => discard (Style.ofText? (t.name.toList ++ ' ' :: parameter))
  | _, _ => pure ()

end OpenTag

/-- What is left of a text when the tags are taken out; `tags` are those switched on, the last one
first. A tag that begins with a slash switches off the one of its name, or the last one. -/
def untagged (tags : List OpenTag) : List Piece → Except Failure (List Char)
  | [] => pure []
  | .text cs :: rest | .escaped cs :: rest => do return shownText cs ++ (← untagged tags rest)
  | .tag content position :: rest =>
    match content.takeWhile (· != '=') with
    | '/' :: closed =>
      if (Text.trim closed).isEmpty then
        match tags with
        | [] => throw (.markupUnbalanced "[/]" position)
        | t :: tags => do
          t.checkAction
          untagged tags rest
      else do
        let name ← Style.nameOf (Text.trim closed)
        match tags.find? (·.name == name) with
        | none => throw (.markupUnbalanced (String.ofList ('[' :: content ++ [']'])) position)
        | some t =>
          t.checkAction
          untagged (tags.eraseP (·.name == name)) rest
    | _ => do untagged ((← OpenTag.ofContent content) :: tags) rest

private def openings (ps : List Piece) : List (List Char) :=
  ps.filterMap fun
    | .tag content _ => if content.head? == some '/' then none else some content
    | _ => none

def isHidden (c : Char) : Bool :=
  [7, 8, 11, 12, 13].contains c.toNat

def plain (s : String) : Except Failure (List Char) := do
  let ps := pieces 0 s.toList
  let cs ← untagged [] ps
  for content in openings ps do
    (← OpenTag.ofContent content).checkStyle
  return cs.filter (!isHidden ·)

end CallAtlas.Console
