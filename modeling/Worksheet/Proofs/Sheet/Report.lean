import Worksheet.Proofs.Sheet.Run

/-! The log of an edit. An accepted edit logs every evaluated cell once with its final value; a refused
edit logs its fault only. -/
namespace Worksheet

def Event.record (e : Event) : Level × String := (e.level, e.message)

/-- The log record of an evaluated cell. -/
def Value.record (cell : String) : Value → Level × String
  | .error e => (.debug, cell ++ " evaluated to an error: " ++ e.message)
  | v => (.trace, cell ++ " = " ++ v.display)

theorem Event.record_evaluated (cell : String) (v : Value) : (evaluated cell v).record = v.record cell := by
  cases v <;> rfl

/-- The name logged for a refused edit: the given text if the name is refused, and the cell otherwise. -/
def Config.target (c : Config) (given : String) : String :=
  match c.cellName given with
  | .ok cell => cell
  | .error _ => Text.quoted given

namespace Sheet
variable {s t : Sheet} {given raw cell : String} {contents : Contents} {order : List String}

/-- The log of an accepted edit: one record for each existing cell of the order with its value in `t`,
followed by the number of affected names. -/
structure Reported (t : Sheet) (cell : String) (names : NameSet) (order : List String) (log : List Event) :
    Prop where
  computed : t.graph.evaluationOrder cell = .ok order
  nodup : order.Nodup
  mem_iff : ∀ n, n ∈ order ↔ n ∈ names
  events : log = (order.filter t.cells.contains).map (fun n => .evaluated n (t.cells.value n)) ++
    [.recalculated cell names.size]
  written : log.map Event.record =
    (order.filter t.cells.contains).map (fun n => (t.cells.value n).record n) ++
      [(.debug, "set " ++ cell ++ ": recalculated " ++ String.ofList (Nat.toDigits 10 names.size) ++
        " cell(s)")]

theorem Updated.reported (h : s.Updated t cell contents order) :
    t.Reported cell (Std.ExtTreeSet.ofList order) order
      (t.cells.evaluations order ++ [.recalculated cell order.length]) := by
  have size : (Std.ExtTreeSet.ofList order : NameSet).size = order.length :=
    NameSet.size_eq_length h.ordered.nodup fun n => NameSet.mem_ofList.symm
  refine ⟨h.computed, h.ordered.nodup, fun n => NameSet.mem_ofList.symm, ?_, ?_⟩
  · rw [size]
    rfl
  · rw [size, List.map_append, Cells.evaluations, List.map_map]
    refine congrArg (· ++ _) (List.map_congr_left fun n _ => ?_)
    exact Event.record_evaluated n (t.cells.value n)

theorem Refuses.record_refusal {fault : Fault} (h : s.Refuses given raw fault) :
    (s.refusal given fault).record =
      (.debug, "rejected edit of " ++ s.config.target given ++ ": " ++ fault.message) := by
  cases h with
  | noName h =>
    rw [Config.target, Config.cellName_eq_error.mpr (.inl ⟨h, rfl⟩)]
    rfl
  | invalidName h invalid =>
    rw [Config.target, Config.cellName_eq_error.mpr (.inr ⟨h, invalid, rfl⟩)]
    rfl
  | malformed h valid _ _ | circular h valid _ _ _ _ =>
    rw [Config.target, Config.cellName_eq_ok.mpr ⟨h, valid, rfl⟩]
    rfl

/-- For every sheet reached by commands, an accepted edit logs the existing affected cells in evaluation
order with their final values and then the number of affected names. A refused edit logs one record with
the cell and the fault and leaves the sheet unchanged. -/
theorem run_enter_log (config : Config) (commands : List Command) (given raw : String) :
    let s := (Sheet.empty config).run commands
    let edit := s.enter given raw
    (∀ names, edit.outcome = .ok names →
      ∃ order, edit.sheet.Reported (config.normalize given) names order edit.log) ∧
    ∀ fault, edit.outcome = .error fault →
      edit.sheet = s ∧ edit.log = [s.refusal given fault] ∧
        edit.log.map Event.record =
          [(.debug, "rejected edit of " ++ config.target given ++ ": " ++ fault.message)] := by
  intro s edit
  have hs : s.Consistent := run_consistent config commands
  have same : s.config = config := run_config config commands
  constructor
  · intro names h
    obtain ⟨contents, order, _, rfl, updated, log⟩ := hs.updated_of_outcome h
    rw [same] at updated log
    exact ⟨order, log ▸ updated.reported⟩
  · intro fault h
    have refused := hs.outcome_eq_error_iff.mp h
    have record := refused.record_refusal
    rw [same] at record
    rw [show edit = _ from hs.enter_of_refuses refused]
    exact ⟨rfl, rfl, congrArg (fun r => [r]) record⟩

/-- The emptied cell `A1` is not logged but is included in the number of affected names. -/
theorem run_enter_log_emptied :
    let s := (Sheet.empty {}).run [.enter "C1" "=B1/A1", .enter "B1" "=2*A1", .enter "A1" "4"]
    let edit := s.enter "a1" ""
    let names : NameSet := .ofList ["A1", "B1", "C1"]
    edit.outcome = .ok names ∧ (∃ order, edit.sheet.Reported "A1" names order edit.log) ∧
      edit.log.map Event.record = [
        (.debug, "B1 evaluated to an error: Undefined variable: A1"),
        (.debug, "C1 evaluated to an error: Undefined variable: B1"),
        (.debug, "set A1: recalculated 3 cell(s)")] := by
  intro s edit names
  have accepted : edit.outcome = .ok names := by decide +kernel
  have name : Config.normalize {} "a1" = "A1" := by decide +kernel
  have reported := (run_enter_log {} _ "a1" "").1 names accepted
  exact ⟨accepted, name ▸ reported, by decide +kernel⟩

end Sheet
end Worksheet
