import Worksheet.Proofs.Graph.Countdown

/-! The evaluation order computed with arbitrary iteration orders. Only the ready names are kept in
order. -/
namespace Worksheet.Graph.Visit
variable {g : Graph}

def start (v : g.Visit) (names : NameSet) : Countdown :=
  let count (name : String) := ((v.precedents name).filter (· ∈ names)).length
  ⟨Std.ExtTreeMap.ofList ((v.reached names).map fun name => (name, count name)),
    Std.ExtTreeSet.ofList ((v.counted names).filter fun name => count name = 0), []⟩

def step (v : g.Visit) (c : Countdown) : Countdown :=
  match c.ready.toList with
  | [] => c
  | name :: _ =>
    (v.dependents name).foldl Countdown.release ⟨c.waiting, c.ready.erase name, name :: c.settled⟩

def run (v : g.Visit) : Nat → Countdown → Countdown
  | 0, c => c
  | n + 1, c => v.run n (v.step c)

def evaluationOrder (v : g.Visit) (start : String) : Except Fault (List String) := do
  Fault.checkIdentifier start
  let names := v.closure ∅ [start]
  let settled := (v.run names.size (v.start names)).settled
  if settled.length = names.size then return settled.reverse else .error (.circular start)

theorem count_eq (v : g.Visit) (names : NameSet) (name : String) :
    ((v.precedents name).filter (· ∈ names)).length = ((g.precedents name).filter (· ∈ names)).size := by
  refine (NameSet.size_eq_length ?_ fun x => ?_).symm
  · exact ((v.precedents_perm name).nodup_iff.mpr (NameSet.nodup_toList _)).filter _
  · rw [List.mem_filter, NameSet.mem_filter, (v.precedents_perm name).mem_iff, Std.ExtTreeSet.mem_toList]

theorem start_eq (v : g.Visit) (names : NameSet) : v.start names = Countdown.start g names := by
  simp only [start, Countdown.start, count_eq]
  congr 1
  · refine Std.ExtTreeMap.ext_getElem? fun {x} => ?_
    rw [Countdown.getElem?_counts ((v.reached_perm names).nodup_iff.mpr (NameSet.nodup_toList _)),
      Countdown.getElem?_counts (NameSet.nodup_toList names)]
    simp only [(v.reached_perm names).mem_iff]
  · refine Std.ExtTreeSet.ext_mem fun {x} => ?_
    rw [NameSet.mem_ofList, List.mem_filter, NameSet.mem_filter, (v.counted_perm names).mem_iff,
      Std.ExtTreeSet.mem_toList]

theorem step_eq (v : g.Visit) (c : Countdown) : v.step c = c.step g := by
  rw [step, Countdown.step]
  cases c.ready.toList with
  | nil => rfl
  | cons name _ => exact Countdown.foldl_release_perm _ (NameSet.nodup_toList _) (v.dependents_perm name)

theorem run_eq (v : g.Visit) (n : Nat) (c : Countdown) : v.run n c = c.run g n := by
  induction n generalizing c with
  | zero => rfl
  | succ n ih => rw [run, Countdown.run, step_eq, ih]

/-- The evaluation order does not depend on the iteration order of the sets. -/
theorem evaluationOrder_eq (v : g.Visit) (start : String) :
    v.evaluationOrder start = g.evaluationOrder start := by
  have names : v.closure ∅ [start] = g.downstream start :=
    Std.ExtTreeSet.ext_mem fun {x} => (v.mem_closure start x).trans (mem_downstream g start x).symm
  simp only [evaluationOrder, Graph.evaluationOrder, names, start_eq, run_eq]

end Worksheet.Graph.Visit
