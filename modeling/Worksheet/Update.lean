import Worksheet.Fault

/-! State updates that can be refused. The result of a run contains the state reached, also when the
update is refused. -/
namespace Worksheet

abbrev Update (σ α : Type) := ExceptT Fault (StateM σ) α

namespace Update
variable {σ α : Type}

/-- The outcome of an update and the state that it leaves. -/
def run (u : Update σ α) (s : σ) : Except Fault α × σ := StateT.run (ExceptT.run u) s

/-- The state that an update leaves, whether it succeeds or is refused. -/
def state (u : Update σ α) (s : σ) : σ := (u.run s).2

/-- The state and the result of a successful update. -/
def result (u : Update σ α) (s : σ) : Except Fault (σ × α) :=
  match u.run s with
  | (.ok a, t) => .ok (t, a)
  | (.error fault, _) => .error fault

/-- The state after a successful update. -/
def after (u : Update σ α) (s : σ) : Except Fault σ := (u.result s).map Prod.fst

/-- Checks the identifiers before it changes the state. -/
def checked (ids : List String) (change : σ → σ) : Update σ Unit := do
  Fault.checkIdentifiers ids
  modify change

end Update
end Worksheet
