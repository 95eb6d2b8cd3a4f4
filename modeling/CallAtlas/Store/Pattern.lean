import CallAtlas.Text.Basic

/-! Search patterns: a percent sign stands for any run of characters and an underscore for any one
character. ASCII letters match in either case. -/
namespace CallAtlas.Store

def folded (c : Char) : Char :=
  c.toLower

def standsFor (p c : Char) : Bool :=
  p == '_' || folded p == folded c

def afterSegment? : List Char → List Char → Option (List Char)
  | [], cs => some cs
  | _ :: _, [] => none
  | p :: ps, c :: cs => if standsFor p c then afterSegment? ps cs else none

/-- What follows the leftmost occurrence of a segment. No later occurrence leaves more to follow. -/
def afterLeftmost? (segment : List Char) : List Char → Option (List Char)
  | [] => afterSegment? segment []
  | c :: cs =>
    match afterSegment? segment (c :: cs) with
    | some rest => some rest
    | none => afterLeftmost? segment cs

def endsWithSegment (segment text : List Char) : Bool :=
  if segment.length ≤ text.length then
    afterSegment? segment (text.drop (text.length - segment.length)) == some []
  else false

def matchesSegments : List (List Char) → List Char → Bool
  | [], text => text.isEmpty
  | [last], text => endsWithSegment last text
  | segment :: next :: more, text =>
    match afterLeftmost? segment text with
    | some rest => matchesSegments (next :: more) rest
    | none => false

def matchesPattern (pattern text : List Char) : Bool :=
  match Text.parts (· == '%') pattern with
  | [] => text.isEmpty
  | [only] => afterSegment? only text == some []
  | first :: next :: more =>
    match afterSegment? first text with
    | some rest => matchesSegments (next :: more) rest
    | none => false

def upToNull (cs : List Char) : List Char :=
  cs.takeWhile (· != '\x00')

def mostPatternBytes : Nat := 50000

def someTail (test : List Char → Bool) : List Char → Bool
  | [] => test []
  | c :: cs => test (c :: cs) || someTail test cs

def occursIn (part text : List Char) : Bool :=
  someTail (fun tail => part.isPrefixOf tail) text

end CallAtlas.Store
