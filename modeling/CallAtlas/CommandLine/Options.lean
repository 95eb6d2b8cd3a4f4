/-! Options and words of a command line. Options may stand anywhere before a double dash, short ones
may share a dash, and of several values of one option the last counts. -/
namespace CallAtlas.CommandLine

structure Flag where
  name : String
  short : Option Char := none
  takesValue : Bool := true
deriving DecidableEq, Inhabited

structure Parsed where
  words : List String := []
  /-- Each option with its value; an option without one has the empty text. -/
  values : List (String × String) := []
deriving DecidableEq, Inhabited

namespace Parsed

def value? (p : Parsed) (name : String) : Option String :=
  (p.values.reverse.find? (·.1 == name)).map (·.2)

def has (p : Parsed) (name : String) : Bool :=
  p.values.any (·.1 == name)

end Parsed

inductive Reading
  | word
  | options (values : List (String × String))
  /-- Options of which the last takes its value from the next argument. -/
  | awaiting (values : List (String × String)) (name : String)
  | refused
deriving DecidableEq, Inhabited

def readLong (flags : List Flag) (cs : List Char) : Reading :=
  let name := String.ofList (cs.takeWhile (· != '='))
  let value := cs.dropWhile (· != '=')
  match flags.find? (·.name == name), value with
  | none, _ => .refused
  | some f, [] => if f.takesValue then .awaiting [] name else .options [(name, "")]
  | some f, _ :: text =>
    if f.takesValue then .options [(name, String.ofList text)] else .refused

/-- Letters behind one dash: the first option that takes a value has the rest of them for it. -/
def readShort (flags : List Flag) : List Char → Reading
  | [] => .options []
  | c :: cs =>
    match flags.find? (·.short == some c) with
    | none => .refused
    | some f =>
      if f.takesValue then
        if cs.isEmpty then .awaiting [] f.name else .options [(f.name, String.ofList cs)]
      else
        match readShort flags cs with
        | .options values => .options ((f.name, "") :: values)
        | .awaiting values name => .awaiting ((f.name, "") :: values) name
        | other => other

def read (flags : List Flag) (argument : String) : Reading :=
  match argument.toList with
  | '-' :: '-' :: cs => readLong flags cs
  | '-' :: c :: cs => readShort flags (c :: cs)
  | _ => .word

def parse (flags : List Flag) : List String → Option Parsed
  | [] => some {}
  | a :: rest =>
    if a = "--" then some { words := rest }
    else
      match read flags a with
      | .word => (parse flags rest).map fun p => { p with words := a :: p.words }
      | .options values =>
        (parse flags rest).map fun p => { p with values := values ++ p.values }
      | .awaiting values name =>
        match rest with
        | [] => none
        | v :: rest =>
          (parse flags rest).map fun p => { p with values := values ++ (name, v) :: p.values }
      | .refused => none

end CallAtlas.CommandLine
