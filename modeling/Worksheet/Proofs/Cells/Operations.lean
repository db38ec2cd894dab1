import Worksheet.Proofs.Cells
import Mathlib.Logic.Function.Basic
import Mathlib.Tactic.TFAE

/-! Sequences of operations on cells, compared with a table that maps names to contents and last
values. -/
namespace Worksheet.Cells

instance : Nonempty Cells := ⟨empty⟩

inductive Operation
  | enter (id : String) (contents : Contents)
  | refresh (id : String) (lookup : Cells → String → Option Float)
  | clear

def Operation.attempt (s : Cells) : Operation → Except Fault Cells
  | enter id contents => s.enter id contents
  | refresh id lookup => (s.refresh id lookup).map Prod.fst
  | clear => .ok .empty

/-- The cells that an operation leaves, whether it succeeds or is refused. -/
def perform (s : Cells) : Operation → Cells
  | .enter id contents => (store id contents).state s
  | .refresh id lookup => (reevaluate id lookup).state s
  | .clear => .empty

def run (s : Cells) (ops : List Operation) : Cells := ops.foldl perform s

/-- The abstract state of cells: the cell stored under each name. -/
abbrev Table := String → Option Cell

namespace Table

def value (t : Table) (id : String) : Value := ((t id).map Cell.value).getD .empty

/-- The cells with a given table. -/
noncomputable def cells (t : Table) : Cells := Function.invFun get? t

/-- The effect of an operation on a table. Operations that lack a name or an existing cell have no
effect. -/
noncomputable def perform (t : Table) : Operation → Table
  | .enter id contents =>
    if id = "" then t
    else Function.update t id (if contents = .empty then none else some ⟨contents, t.value id⟩)
  | .refresh id lookup => match t id with
    | none => t
    | some cell =>
      if id = "" then t
      else Function.update t id (some ⟨cell.contents, cell.contents.evaluate (lookup t.cells)⟩)
  | .clear => fun _ => none

noncomputable def run (ops : List Operation) : Table := ops.foldl perform fun _ => none

end Table

namespace Table
variable {t : Table}

/-- No stored cell has empty contents. -/
def Filled (t : Table) : Prop := ∀ id cell, t id = some cell → cell.contents ≠ .empty

theorem Filled.update (h : t.Filled) {id : String} {new : Option Cell}
    (ne : ∀ cell, new = some cell → cell.contents ≠ .empty) : Filled (Function.update t id new) := by
  intro n cell found
  rw [Function.update_apply] at found
  split at found
  · exact ne cell found
  · exact h n cell found

theorem Filled.perform (h : t.Filled) (op : Operation) : (t.perform op).Filled := by
  cases op with
  | enter id contents =>
    rw [Table.perform]
    split
    · exact h
    · refine h.update fun cell new => ?_
      split at new
      · cases new
      · cases new
        assumption
  | refresh id lookup =>
    rw [Table.perform]
    cases found : t id with
    | none => exact h
    | some cell =>
      dsimp only
      split
      · exact h
      · refine h.update fun _ new => ?_
        cases new
        exact h id cell found
  | clear =>
    intro n cell found
    cases found

theorem filled_run (ops : List Operation) : (run ops).Filled := by
  have step (t : Table) (h : t.Filled) : (ops.foldl perform t).Filled := by
    induction ops generalizing t with
    | nil => exact h
    | cons op ops ih => exact ih _ (h.perform op)
  refine step _ fun n cell found => ?_
  cases found

end Table

theorem cells_get? (s : Cells) : Table.cells s.get? = s := Function.leftInverse_invFun get?_injective s

variable {s t : Cells} {id : String} {lookup : Cells → String → Option Float}

/-- Storing without a name is refused and changes nothing. Otherwise it replaces the entry of that
name. -/
theorem store_cases (s : Cells) (id : String) (contents : Contents) :
    id = "" ∧ (∃ fault, (store id contents).run s = (.error fault, s)) ∨
    ∃ t, id ≠ "" ∧ (store id contents).run s = (.ok (), t) ∧
      t.get? = Function.update s.get? id (if contents = .empty then none else some ⟨contents, s.value id⟩) := by
  by_cases named : id = ""
  · exact .inl ⟨named, .emptyIdentifier, Update.run_checked_of_empty (by simp [named]) _ s⟩
  · obtain ⟨t, ok, get⟩ := s.store_spec named contents
    refine .inr ⟨t, named, ok, funext fun n => ?_⟩
    simp only [get, Function.update_apply, Contents.isEmpty_iff]

/-- Reevaluation without a name or of an absent cell is refused and changes nothing. Otherwise it
replaces the value of that cell. -/
theorem reevaluate_cases (s : Cells) (id : String) (lookup : Cells → String → Option Float) :
    (id = "" ∨ s.get? id = none) ∧ (∃ fault, (reevaluate id lookup).run s = (.error fault, s)) ∨
    ∃ cell t, id ≠ "" ∧ s.get? id = some cell ∧
      (reevaluate id lookup).run s = (.ok (cell.contents.evaluate (lookup s)), t) ∧
      t.get? = Function.update s.get? id (some ⟨cell.contents, cell.contents.evaluate (lookup s)⟩) := by
  by_cases named : id = ""
  · subst named
    exact .inl ⟨.inl rfl, .emptyIdentifier, rfl⟩
  · cases found : s.get? id with
    | none =>
      refine .inl ⟨.inr rfl, .noSuchCell id, ?_⟩
      rw [reevaluate, Fault.checkIdentifier_eq_ok named]
      simp only [Update.run_bind, Update.run_liftM, Update.run_get, found]
      rfl
    | some cell =>
      obtain ⟨t, ok, get⟩ := s.reevaluate_spec named found lookup
      exact .inr ⟨cell, t, named, rfl, ok, funext fun n => by rw [get, Function.update_apply]⟩

theorem exists_enter_iff {contents : Contents} : (∃ t, s.enter id contents = .ok t) ↔ id ≠ "" := by
  rcases s.store_cases id contents with ⟨unnamed, fault, failed⟩ | ⟨t, named, ok, -⟩
  · rw [enter, Update.after_of_run_error failed]
    simp [unnamed]
  · rw [enter, Update.after_of_run ok]
    simp [named]

theorem get?_enter {contents : Contents} (h : s.enter id contents = .ok t) :
    t.get? = Function.update s.get? id (if contents = .empty then none else some ⟨contents, s.value id⟩) := by
  rw [enter] at h
  rcases s.store_cases id contents with ⟨-, fault, failed⟩ | ⟨u, -, ok, get⟩
  · cases h.symm.trans (Update.after_of_run_error failed)
  · cases h.symm.trans (Update.after_of_run ok)
    exact get

theorem exists_refresh_iff :
    (∃ refreshed, s.refresh id lookup = .ok refreshed) ↔ id ≠ "" ∧ s.contains id = true := by
  rcases s.reevaluate_cases id lookup with ⟨lacks, fault, failed⟩ | ⟨cell, t, named, found, ok, -⟩
  · rw [refresh, Update.result_of_run_error failed, contains]
    rcases lacks with unnamed | absent
    · simp [unnamed]
    · simp [absent]
  · rw [refresh, Update.result_of_run ok, contains, found]
    simp [named]

theorem get?_refresh {value : Value} (h : s.refresh id lookup = .ok (t, value)) :
    value = (s.contents id).evaluate (lookup s) ∧
      t.get? = Function.update s.get? id (some ⟨s.contents id, value⟩) := by
  rw [refresh] at h
  rcases s.reevaluate_cases id lookup with ⟨-, fault, failed⟩ | ⟨cell, u, -, found, ok, get⟩
  · cases h.symm.trans (Update.result_of_run_error failed)
  · cases h.symm.trans (Update.result_of_run ok)
    rw [contents_of_get? found]
    exact ⟨rfl, get⟩

/-- Refused operations are refused before any change. -/
theorem perform_of_attempt_eq_error {op : Operation} {fault : Fault} (h : op.attempt s = .error fault) :
    s.perform op = s := by
  cases op with
  | enter id contents =>
    rcases s.store_cases id contents with ⟨-, _, failed⟩ | ⟨t, -, ok, -⟩
    · exact Update.state_of_run failed
    · cases h.symm.trans (Update.after_of_run ok)
  | refresh id lookup =>
    rcases s.reevaluate_cases id lookup with ⟨-, _, failed⟩ | ⟨cell, t, -, -, ok, -⟩
    · exact Update.state_of_run failed
    · cases h.symm.trans (Update.after_of_run ok)
  | clear => cases h

/-- The abstraction `get?` commutes with every operation. -/
theorem get?_perform (s : Cells) (op : Operation) : (s.perform op).get? = Table.perform s.get? op := by
  cases op with
  | enter id contents =>
    rcases s.store_cases id contents with ⟨unnamed, fault, failed⟩ | ⟨t, named, ok, get⟩
    · rw [Table.perform, if_pos unnamed, perform, Update.state_of_run failed]
    · rw [Table.perform, if_neg named, perform, Update.state_of_run ok]
      exact get
  | refresh id lookup =>
    rw [Table.perform, cells_get?]
    rcases s.reevaluate_cases id lookup with ⟨lacks, fault, failed⟩ | ⟨cell, t, named, found, ok, get⟩
    · rw [perform, Update.state_of_run failed]
      cases found : s.get? id with
      | none => rfl
      | some cell => exact (if_pos (lacks.resolve_right (found ▸ Option.some_ne_none cell))).symm
    · rw [perform, Update.state_of_run ok, found]
      exact get.trans (if_neg named).symm
  | clear => rfl

theorem get?_run (ops : List Operation) : (empty.run ops).get? = Table.run ops := by
  have from_table (s : Cells) : (s.run ops).get? = ops.foldl Table.perform s.get? := by
    induction ops generalizing s with
    | nil => rfl
    | cons op ops ih => rw [run, List.foldl_cons, List.foldl_cons, ← get?_perform, ← ih, run]
  exact from_table empty

/-- Refinement over all sequences of operations: the cells agree with the table, exactly the names with
nonempty contents are stored, and each is listed once. Storing replaces the contents of one name and
keeps the value computed for earlier contents; an absent cell has the empty value. Reevaluation succeeds
exactly for stored names, evaluates against the cells before the operation, also for the cell itself, and
replaces one value. Refused operations leave the cells unchanged. -/
theorem run_refines (ops : List Operation) :
    let s := empty.run ops
    s.get? = Table.run ops ∧
    (∀ id cell, s.get? id = some cell → cell.contents ≠ .empty) ∧
    (∀ id, [s.contains id = true, id ∈ s.names, s.contents id ≠ .empty].TFAE) ∧
    s.names.Nodup ∧ s.size = s.names.length ∧
    (∀ id contents, (∃ t, s.enter id contents = .ok t) ↔ id ≠ "") ∧
    (∀ id contents t, s.enter id contents = .ok t →
      t.get? = Function.update s.get? id (if contents = .empty then none else some ⟨contents, s.value id⟩)) ∧
    (∀ id, s.contains id = false → s.value id = .empty) ∧
    (∀ id lookup, (∃ refreshed, s.refresh id lookup = .ok refreshed) ↔ id ≠ "" ∧ s.contains id = true) ∧
    (∀ id lookup t value, s.refresh id lookup = .ok (t, value) →
      value = (s.contents id).evaluate (lookup s) ∧
      t.get? = Function.update s.get? id (some ⟨s.contents id, value⟩)) ∧
    ∀ op fault, op.attempt s = .error fault → s.perform op = s := by
  intro s
  have table : s.get? = Table.run ops := get?_run ops
  have filled (id : String) (cell : Cell) (found : s.get? id = some cell) : cell.contents ≠ .empty :=
    Table.filled_run ops id cell (table ▸ found)
  have listed (id : String) : s.contains id = true ↔ s.contents id ≠ .empty := contains_iff fun found => by
    obtain ⟨cell, found⟩ := Option.isSome_iff_exists.mp found
    exact contents_of_get? found ▸ filled id cell found
  refine ⟨table, filled, fun id => ?_, Std.ExtTreeMap.nodup_keys, Std.ExtTreeMap.length_keys.symm,
    fun _ _ => exists_enter_iff, fun _ _ _ => get?_enter, fun _ => value_of_not_contains,
    fun _ _ => exists_refresh_iff, fun _ _ _ _ => get?_refresh, fun _ _ => perform_of_attempt_eq_error⟩
  tfae_have 1 ↔ 2 := mem_names.symm
  tfae_have 1 ↔ 3 := listed id
  tfae_finish

/-- A self-reference reads the value left by the earlier contents; after a removal no value is left. -/
theorem run_refines_left_value :
    let f : Formula := ⟨[.var "A1", .operator .add, .number 1], rfl⟩
    let ops : List Operation := [.enter "A1" (.number 1), .refresh "A1" number?, .enter "A1" (.formula f)]
    let s := empty.run ops
    let removed := empty.run (ops ++ [.enter "A1" .empty])
    s.value "A1" = .number 1 ∧
    (∃ t, s.refresh "A1" number? = .ok (t, .number 2) ∧
      t.get? = Function.update s.get? "A1" (some ⟨.formula f, .number 2⟩)) ∧
    s.perform (.refresh "B1" number?) = s ∧
    ∃ t, removed.enter "A1" (.formula f) = .ok t ∧
      t.get? = Function.update removed.get? "A1" (some ⟨.formula f, .empty⟩) := by
  intro f ops s removed
  have named : "A1" ≠ "" := by decide
  have contents : s.contents "A1" = .formula f := by decide +kernel
  have left : s.value "A1" = .number 1 := by decide +kernel
  have unlisted : Operation.attempt s (.refresh "B1" number?) = .error (.noSuchCell "B1") := by decide +kernel
  have gone : removed.contains "A1" = false := by decide +kernel
  have sum : (s.refresh "A1" number?).map Prod.snd = .ok (.number 2) := by decide +kernel
  obtain ⟨-, -, -, -, -, -, -, -, -, refreshed, failed⟩ := run_refines ops
  obtain ⟨-, -, -, -, -, accepts, entered, unread, -⟩ := run_refines (ops ++ [.enter "A1" .empty])
  refine ⟨left, ?_, failed _ _ unlisted, ?_⟩
  · cases ok : s.refresh "A1" number? with
    | error fault =>
      rw [ok] at sum
      cases sum
    | ok after =>
      obtain ⟨t, value⟩ := after
      rw [ok] at sum
      cases sum
      exact ⟨t, rfl, contents ▸ (refreshed _ _ _ _ ok).2⟩
  · obtain ⟨t, ok⟩ := (accepts "A1" (.formula f)).mpr named
    have get := entered _ _ _ ok
    rw [unread _ gone] at get
    exact ⟨t, ok, get⟩

end Worksheet.Cells
