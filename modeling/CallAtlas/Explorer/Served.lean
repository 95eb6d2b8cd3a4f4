import CallAtlas.Client.Exchange
import CallAtlas.Explorer.Step

namespace CallAtlas.Explorer

variable [Store.Engine]

def Setup.ofSettings (settings : Settings) : Setup :=
  ⟨.whole settings.nodeBudget, settings.options⟩

namespace State

/-- No task makes more requests than these: one for details and three for a graph. -/
def requestCap (s : State) : Nat :=
  4 * s.tasks.length

def answer (settings : Settings) (setup : Setup) : Nat → State → Store.Access State
  | 0, s => pure s
  | n + 1, s => do
    match s.open? with
    | none => return s
    | some (i, f) =>
      let reply ← try Except.ok <$> Client.ask settings f.call catch e => pure (.error e)
      answer settings setup n (s.respond setup (.settle i f.endpoint reply))

end State

/-- What a single load leaves on a fresh explorer; the failure that ends it is passed on. -/
def alone (settings : Settings) (setup : Setup) (load : Event) : Store.Access State := do
  let start := ({} : State).respond setup load
  let s ← start.answer settings setup start.requestCap
  match s.task? 0 with
  | some { outcome := .failed e, .. } => throw e
  | _ => return s

end CallAtlas.Explorer
