import CallAtlas.Text.Word

/-! The named placeholders of a statement's text. Literals and comments are blanked out first, so
that what they hold is never taken for a placeholder. -/
namespace CallAtlas.Query

/-- What follows a quoted text whose opening quote is taken off. A doubled quote stands for a
quote inside, unless no other one is left to close the text. -/
def closeQuoted (quote : Char) : List Char → Option (List Char)
  | [] => none
  | [c] => if c = quote then some [] else none
  | c :: d :: cs =>
    if c = quote then
      if d = quote then (closeQuoted quote cs).or (some (d :: cs)) else some (d :: cs)
    else closeQuoted quote (d :: cs)

def closeBlock : List Char → Option (List Char)
  | [] => none
  | [_] => none
  | c :: d :: cs => if c = '*' ∧ d = '/' then some cs else closeBlock (d :: cs)

theorem closeQuoted_length {quote : Char} {cs rest : List Char}
    (h : closeQuoted quote cs = some rest) : rest.length < cs.length := by
  fun_induction closeQuoted quote cs generalizing rest with
  | case1 => cases h
  | case2 => cases h; exact Nat.zero_lt_one
  | case3 => cases h
  | case4 cs ih =>
    cases hc : closeQuoted quote cs with
    | none =>
      rw [hc] at h
      cases h
      exact Nat.lt_succ_self _
    | some r =>
      rw [hc] at h
      cases h
      exact Nat.lt_succ_of_lt (Nat.lt_succ_of_lt (ih hc))
  | case5 => cases h; exact Nat.lt_succ_self _
  | case6 c d cs _ ih => exact Nat.lt_succ_of_lt (ih h)

theorem closeBlock_length {cs rest : List Char} (h : closeBlock cs = some rest) :
    rest.length < cs.length := by
  fun_induction closeBlock cs generalizing rest with
  | case1 => cases h
  | case2 => cases h
  | case3 => cases h; exact Nat.lt_succ_of_lt (Nat.lt_succ_self _)
  | case4 c d cs _ ih => exact Nat.lt_succ_of_lt (ih h)

def skip? : List Char → Option (List Char)
  | [] => none
  | c :: cs =>
    if c = '\x27' ∨ c = '\x22' then closeQuoted c cs
    else
      match c, cs with
      | '-', '-' :: rest => some (rest.dropWhile (· != '\n'))
      | '/', '*' :: rest => closeBlock rest
      | _, _ => none

theorem skip?_length {cs rest : List Char} (h : skip? cs = some rest) :
    rest.length < cs.length := by
  cases cs with
  | nil => cases h
  | cons c cs =>
    simp only [skip?] at h
    split at h
    · exact Nat.lt_succ_of_lt (closeQuoted_length h)
    · split at h
      · next inner _ =>
        cases h
        have := (List.dropWhile_sublist (· != '\n') (l := inner)).length_le
        exact Nat.lt_succ_of_lt (Nat.lt_succ_of_le this)
      · next inner _ => exact Nat.lt_succ_of_lt (Nat.lt_succ_of_lt (closeBlock_length h))
      · cases h

def blanked (cs : List Char) : List Char :=
  match cs with
  | [] => []
  | c :: rest =>
    match h : skip? (c :: rest) with
    | some after =>
      have := skip?_length h
      ' ' :: blanked after
    | none => c :: blanked rest
termination_by cs.length
decreasing_by
  · assumption
  · exact Nat.lt_succ_self _

def isSigil (c : Char) : Bool :=
  c == ':' || c == '@' || c == '$'

/-- The names behind the sigils of a text that follows the character `before`. A sigil right after
a word or another sigil opens no placeholder. -/
def namesFrom (before : Char) : List Char → List (List Char)
  | [] => []
  | c :: cs =>
    let here := isSigil c && !Text.isWord before && !isSigil before && cs.head?.any Text.isNameStart
    if here then cs.takeWhile Text.isWord :: namesFrom c cs else namesFrom c cs

def names (cs : List Char) : List (List Char) :=
  namesFrom ' ' cs

def placeholders (text : String) : List String :=
  ((names (blanked text.toList)).map String.ofList).eraseDups

end CallAtlas.Query
