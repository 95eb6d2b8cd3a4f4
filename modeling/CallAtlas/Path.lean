import CallAtlas.Text.Basic

namespace CallAtlas.Path

def isSlash (c : Char) : Bool :=
  c == '/'

def forward (cs : List Char) : List Char :=
  cs.map fun c => if c = '\\' then '/' else c

def segments : List Char → List (List Char)
  | [] => [[]]
  | c :: cs =>
    if c = '/' then [] :: segments cs
    else
      match segments cs with
      | [] => [[c]]
      | s :: ss => (c :: s) :: ss

def join : List (List Char) → List Char
  | [] => []
  | [s] => s
  | s :: t :: ss => s ++ '/' :: join (t :: ss)

theorem segments_ne_nil (cs : List Char) : segments cs ≠ [] := by
  cases cs with
  | nil => simp [segments]
  | cons c cs =>
    simp only [segments]
    split
    · simp
    · split <;> simp

@[simp] theorem join_segments (cs : List Char) : join (segments cs) = cs := by
  induction cs with
  | nil => rfl
  | cons c cs ih =>
    have hne := segments_ne_nil cs
    cases h : segments cs with
    | nil => exact absurd h hne
    | cons s ss =>
      rw [h] at ih
      by_cases hc : c = '/'
      · simp [segments, hc, h, join, ih]
      · cases ss with
        | nil => simp_all [segments, join]
        | cons t ts => simp_all [segments, join]

def normalize (path : String) : String :=
  String.ofList (forward (Text.trim path.toList))

/-- Trimmed, with forward slashes, and none of them at the ends. What the slashes enclosed may
still begin or end with a blank. -/
def normalizeBrowse (path : String) : String :=
  String.ofList (Text.strip isSlash (forward (Text.trim path.toList)))

def names (cs : List Char) : List (List Char) :=
  (segments cs).filter fun s => s ≠ [] ∧ s ≠ ['.']

/-- The part of a name from its last dot on; empty if that dot begins or ends the name. -/
def extensionOf (name : List Char) : List Char :=
  let after := name.reverse.takeWhile (· != '.')
  let before := (name.reverse.dropWhile (· != '.')).drop 1
  if before.isEmpty || after.isEmpty then [] else '.' :: after.reverse

def extension (path : String) : String :=
  String.ofList (extensionOf ((names (forward path.toList)).getLast?.getD []))

/-- One leading slash, or exactly two, are kept as the root. -/
private def root (cs : List Char) : List Char :=
  let slashes := (cs.takeWhile isSlash).length
  if slashes = 2 then ['/', '/'] else if slashes = 0 then [] else ['/']

/-- A path made absolute from `directory`, without empty or dot segments; parents stay. -/
def absolute (directory path : String) : String :=
  let cs := path.toList
  let body := join (names cs)
  if (root cs).isEmpty then
    if body.isEmpty then directory else directory ++ "/" ++ String.ofList body
  else String.ofList (root cs ++ body)

def longestName : Nat := 255
def longest : Nat := 4095

def beforeLongName? (path : String) : Option String :=
  let all := segments path.toList
  let fits (name : List Char) : Bool := (String.ofList name).utf8ByteSize ≤ longestName
  if all.all fits then none
  else
    let directory := String.ofList (join (all.takeWhile fits))
    some (if directory.isEmpty then "/" else directory)

end CallAtlas.Path
