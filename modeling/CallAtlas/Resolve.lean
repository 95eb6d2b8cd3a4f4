import CallAtlas.Path

/-! Finding the stored path that a path from elsewhere stands for. The two look-ups are asked in
an arbitrary monad, so that the same search runs on a set of paths and on a store that can fail. -/
namespace CallAtlas.Resolve

/-- The path itself, without one leading `./`, and without leading slashes. -/
def exactCandidates (path : String) : List String :=
  let cs := path.toList
  let undotted := match cs with
    | '.' :: '/' :: rest => rest
    | _ => cs
  let candidates := [cs, undotted, cs.dropWhile Path.isSlash].map String.ofList
  (candidates.filter (!·.isEmpty)).eraseDups

def tails : List α → List (List α)
  | [] => []
  | x :: xs => (x :: xs) :: tails xs

def suffixCandidates (minLength : Int) (path : String) : List String :=
  let suffixes := (tails (Path.segments path.toList)).map Path.join
  let long := suffixes.filter fun s => decide (minLength ≤ s.length)
  (long.map String.ofList).eraseDups

/-- Two matches tell a shared suffix from one that settles the path. -/
def matchCap : Nat := 2

variable {m : Type → Type} [Monad m]

def firstStored (isStored : String → m Bool) : List String → m (Option String)
  | [] => pure none
  | c :: cs => do
    if ← isStored c then pure (some c) else firstStored isStored cs

/-- The first suffix with a single match settles the path; a shared one is passed over. -/
def firstUnique {α : Type} (find : String → Nat → m (List α)) : List String → m (Option α)
  | [] => pure none
  | s :: ss => do
    match ← find s matchCap with
    | [file] => pure (some file)
    | _ => firstUnique find ss

/-- A path that is stored as it was written is found as `ofPath` has it. -/
def resolve {α : Type} (ofPath : String → α) (isStored : String → m Bool)
    (find : String → Nat → m (List α)) (minLength : Int) (path : String) : m (Option α) := do
  let normalized := Path.normalize path
  if normalized.isEmpty then pure none
  else
    match ← firstStored isStored (exactCandidates normalized) with
    | some file => pure (some (ofPath file))
    | none => firstUnique find (suffixCandidates minLength normalized)

def withSuffix (files : List String) (suffix : String) (cap : Nat) : List String :=
  ((files.filter fun f => suffix.toList.isSuffixOf f.toList).mergeSort).take cap

def resolveIn (files : List String) (minLength : Int) (path : String) : Option String :=
  Id.run (resolve id (fun f => pure (files.contains f)) (fun s n => pure (withSuffix files s n))
    minLength path)

structure Asked where
  stored : List String := []
  suffixes : List (String × Nat) := []

def resolveAsking (files : List String) (minLength : Int) (path : String) :
    StateM Asked (Option String) :=
  resolve id
    (fun f => do
      modify fun a => { a with stored := a.stored ++ [f] }
      pure (files.contains f))
    (fun s n => do
      modify fun a => { a with suffixes := a.suffixes ++ [(s, n)] }
      pure (withSuffix files s n))
    minLength path

end CallAtlas.Resolve
