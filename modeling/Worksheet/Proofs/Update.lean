import Worksheet.Update

/-! Equations for runs of updates. The state after a refused update is determined by the point at which
it is refused. -/
namespace Worksheet

namespace Fault

theorem checkIdentifier_eq_ok {id : String} (h : id ≠ "") : checkIdentifier id = .ok () :=
  if_neg h

theorem checkIdentifiers_eq_ok {ids : List String} (h : ∀ id ∈ ids, id ≠ "") : checkIdentifiers ids = .ok () := by
  induction ids with
  | nil => rfl
  | cons id ids ih =>
    rw [checkIdentifiers, List.forM, checkIdentifier_eq_ok (h id List.mem_cons_self)]
    exact ih fun x hx => h x (List.mem_cons_of_mem id hx)

theorem checkIdentifiers_eq_error {ids : List String} (h : "" ∈ ids) :
    checkIdentifiers ids = .error .emptyIdentifier := by
  induction ids with
  | nil => exact absurd h List.not_mem_nil
  | cons id ids ih =>
    rw [checkIdentifiers, List.forM]
    by_cases first : id = ""
    · rw [first]
      rfl
    · rw [checkIdentifier_eq_ok first]
      exact ih ((List.mem_cons.mp h).resolve_left (Ne.symm first))

end Fault

namespace Update
variable {σ α β : Type} {u : Update σ α} {s t : σ} {a : α} {fault : Fault}

theorem run_bind (u : Update σ α) (next : α → Update σ β) (s : σ) :
    Update.run (u >>= next) s = match u.run s with
      | (.ok a, t) => (next a).run t
      | (.error fault, t) => (.error fault, t) := by
  unfold Update.run ExceptT.run StateT.run
  simp only [bind, ExceptT.bind, ExceptT.mk, StateT.bind, ExceptT.bindCont]
  obtain ⟨outcome, t⟩ := u s
  cases outcome <;> rfl

@[simp] theorem run_pure (a : α) (s : σ) : Update.run (pure a) s = (.ok a, s) := rfl

@[simp] theorem run_get (s : σ) : Update.run get s = (.ok s, s) := rfl

@[simp] theorem run_liftM (x : Except Fault α) (s : σ) : Update.run (liftM x : Update σ α) s = (x, s) := rfl

theorem result_of_run (h : u.run s = (.ok a, t)) : u.result s = .ok (t, a) := by
  rw [result, h]

theorem after_of_run (h : u.run s = (.ok a, t)) : u.after s = .ok t := by
  rw [after, result_of_run h]
  rfl

theorem result_of_run_error (h : u.run s = (.error fault, t)) : u.result s = .error fault := by
  rw [result, h]

theorem after_of_run_error (h : u.run s = (.error fault, t)) : u.after s = .error fault := by
  rw [after, result_of_run_error h]
  rfl

theorem state_of_run {outcome : Except Fault α} (h : u.run s = (outcome, t)) : u.state s = t := by
  rw [state, h]

theorem run_checked {ids : List String} (h : ∀ id ∈ ids, id ≠ "") (change : σ → σ) (s : σ) :
    (checked ids change).run s = (.ok (), change s) := by
  rw [checked, Fault.checkIdentifiers_eq_ok h]
  rfl

/-- A missing identifier refuses the update before the change, so the state is the initial one. -/
theorem run_checked_of_empty {ids : List String} (h : "" ∈ ids) (change : σ → σ) (s : σ) :
    (checked ids change).run s = (.error .emptyIdentifier, s) := by
  rw [checked, Fault.checkIdentifiers_eq_error h]
  rfl

end Update
end Worksheet
