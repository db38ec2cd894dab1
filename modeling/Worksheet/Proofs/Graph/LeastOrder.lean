import Worksheet.Proofs.Graph.EvaluationOrder
import Worksheet.Proofs.Graph.Operations
import Worksheet.Proofs.Graph.Visiting
import Mathlib.Data.Fintype.Card
import Mathlib.Data.Set.Finite.List
import Mathlib.Order.Bounds.Basic

/-! Existence and minimality of the evaluation order. Choosing the least ready name in each step yields
the lexicographically least order. -/
namespace Worksheet.Graph
open Relation
variable {g : Graph} {start : String} {order : List String}

/-- The edges between names reachable from `start`. -/
def Within (g : Graph) (start s t : String) : Prop := g.HasEdge s t ∧ g.Leads start s ∧ g.Leads start t

/-- A nonempty set of names in which each has a precedent contains a cycle, since names in a graph are
finitely many. -/
theorem exists_cycle_of_stuck {stuck : Set String} (nonempty : stuck.Nonempty)
    (blocked : ∀ x ∈ stuck, g.Leads start x ∧ ∃ p ∈ stuck, g.HasEdge p x) :
    ∃ x, TransGen (g.Within start) x x := by
  by_contra acyclic
  let reached := {x | x ∈ (g.downstream start).toList}
  have : Finite reached := List.finite_toSet _
  have trans : IsTrans reached fun a b => TransGen (g.Within start) a b := ⟨fun _ _ _ => .trans⟩
  have irrefl : Std.Irrefl fun a b : reached => TransGen (g.Within start) a b :=
    ⟨fun a path => acyclic ⟨a, path⟩⟩
  have wf := Finite.wellFounded_of_trans_of_irrefl fun a b : reached => TransGen (g.Within start) a b
  have mem (x : String) (hx : x ∈ stuck) : x ∈ reached :=
    Std.ExtTreeSet.mem_toList.mpr ((mem_downstream g start x).mpr (blocked x hx).1)
  obtain ⟨x, hx⟩ := nonempty
  obtain ⟨⟨y, _⟩, hy, least⟩ := wf.has_min {a : reached | a.1 ∈ stuck} ⟨⟨x, mem x hx⟩, hx⟩
  obtain ⟨lead, p, hp, edge⟩ := blocked y hy
  exact least ⟨p, mem p hp⟩ hp (.single ⟨edge, (blocked p hp).1, lead⟩)

namespace IsEvaluationOrder

theorem not_transGen_within (h : g.IsEvaluationOrder start order) (x : String) :
    ¬ TransGen (g.Within start) x x := by
  intro path
  obtain ⟨_, first, _⟩ := TransGen.head'_iff.mp path
  exact h.acyclic ((h.mem_iff x).mpr first.2.1) (path.lift id fun _ _ edge => edge.1)

theorem head?_eq (h : g.IsEvaluationOrder start order) : order.head? = some start := by
  cases order with
  | nil => exact absurd h.start_mem List.not_mem_nil
  | cons x rest =>
    rcases ReflTransGen.cases_tail ((h.mem_iff x).mp List.mem_cons_self) with same | ⟨y, lead, edge⟩
    · rw [List.head?_cons, same]
    · have before := h.idxOf_lt_of_edge ((h.mem_iff y).mpr lead) edge
      rw [List.idxOf_cons_self] at before
      exact absurd before (Nat.not_lt_zero _)

theorem pending_eq_empty (hm : g.Mirrored) {before rest earlier : List String} {y : String}
    (h : g.IsEvaluationOrder start (before ++ y :: rest)) (same : ∀ x, x ∈ earlier ↔ x ∈ before) :
    g.pending (g.downstream start) earlier y = ∅ := by
  refine Std.ExtTreeSet.eq_empty_iff_forall_not_mem.mpr fun p hp => ?_
  obtain ⟨precedes, reached, unsettled⟩ := mem_pending.mp hp
  have edge : g.HasEdge p y := (hm p y).mpr precedes
  have listed := (h.mem_iff p).mpr ((mem_downstream g start p).mp reached)
  rcases List.mem_append.mp listed with earlier | listed
  · exact unsettled ((same p).mpr earlier)
  rcases List.mem_cons.mp listed with rfl | later
  · exact h.irrefl p (by simp) edge
  · have forward := (List.pairwise_append.mp h.forward).2.1
    exact List.rel_of_pairwise_cons forward later edge

end IsEvaluationOrder

/-- Sequences of settled names, the latest first, in which each was the least ready name. -/
inductive LeastFirst (g : Graph) (names : NameSet) : List String → Prop
  | nil : LeastFirst g names []
  | cons {x : String} {earlier : List String}
      (least : ∀ y ∈ names, y ∉ earlier → g.pending names earlier y = ∅ → x ≤ y)
      (before : LeastFirst g names earlier) : LeastFirst g names (x :: earlier)

namespace LeastFirst
variable {names : NameSet} {c : Countdown}

theorem of_append {later earlier : List String} (h : g.LeastFirst names (later ++ earlier)) :
    g.LeastFirst names earlier := by
  induction later with
  | nil => exact h
  | cons x later ih =>
    cases h with
    | cons _ before => exact ih before

theorem step (sound : Countdown.Sound g names c) (h : g.LeastFirst names c.settled) :
    g.LeastFirst names (c.step g).settled := by
  by_cases idle : c.ready = ∅
  · rwa [Countdown.Sound.step_idle idle]
  · obtain ⟨name, _, least, he⟩ := Countdown.Sound.step_eq (g := g) idle
    rw [he, Countdown.foldl_release_settled]
    exact .cons (fun y mem new free => least y ((sound.mem_ready y).mpr ⟨mem, new, free⟩)) h

theorem run (hm : g.Mirrored) (sound : Countdown.Sound g names c) (h : g.LeastFirst names c.settled)
    (n : Nat) : g.LeastFirst names (c.run g n).settled := by
  induction n generalizing c with
  | zero => exact h
  | succ n ih => exact ih (sound.step hm) (step sound h)

theorem least_of_append {before rest : List String} {x y : String}
    (h : g.LeastFirst names (before ++ x :: rest).reverse) (mem : y ∈ names) (new : y ∉ before)
    (free : g.pending names before.reverse y = ∅) : x ≤ y := by
  rw [List.reverse_append, List.reverse_cons, List.append_assoc] at h
  cases h.of_append with
  | cons least => exact least y mem (mt List.mem_reverse.mp new) free

/-- Lexicographic comparison at the first difference of two orders. -/
theorem le_of_append (hm : g.Mirrored) (before : List String) {rest rest' : List String}
    (h : g.LeastFirst (g.downstream start) (before ++ rest).reverse)
    (ho : g.IsEvaluationOrder start (before ++ rest)) (ho' : g.IsEvaluationOrder start (before ++ rest')) :
    rest ≤ rest' := by
  induction rest generalizing before rest' with
  | nil =>
    cases rest' with
    | nil => exact le_rfl
    | cons y rest' => exact le_of_lt .nil
  | cons x rest ih =>
    have new {o : List String} {z : String} (ho : g.IsEvaluationOrder start (before ++ z :: o)) : z ∉ before :=
      fun old => (List.nodup_append.mp ho.nodup).2.2 z old z List.mem_cons_self rfl
    cases rest' with
    | nil =>
      have listed := (ho'.mem_iff x).mpr ((ho.mem_iff x).mp (by simp))
      rw [List.append_nil] at listed
      exact absurd listed (new ho)
    | cons y rest' =>
      by_cases same : x = y
      · subst same
        rw [List.append_cons] at h ho ho'
        exact List.cons_le_cons x (ih (before ++ [x]) h ho ho')
      · have reached := (mem_downstream g start y).mpr ((ho'.mem_iff y).mp (by simp))
        have le : x ≤ y :=
          h.least_of_append reached (new ho') (ho'.pending_eq_empty hm fun _ => List.mem_reverse)
        exact le_of_lt (.rel (lt_of_le_of_ne le same))

end LeastFirst

theorem settled_of_evaluationOrder (named : start ≠ "") (h : g.evaluationOrder start = .ok order) :
    ((Countdown.start g (g.downstream start)).run g (g.downstream start).size).settled.reverse = order := by
  rw [evaluationOrder_of_ne_empty g named] at h
  dsimp only at h
  split at h
  · exact Except.ok.inj h
  · cases h

theorem isLeast_of_evaluationOrder (hm : g.Mirrored) (named : start ≠ "")
    (h : g.evaluationOrder start = .ok order) : IsLeast {o | g.IsEvaluationOrder start o} order := by
  have ho := isEvaluationOrder_of_ok hm named h
  have least := LeastFirst.run hm (Countdown.start_sound g (g.downstream start)) .nil
    (g.downstream start).size
  rw [← List.reverse_reverse (Countdown.settled _), settled_of_evaluationOrder named h] at least
  exact ⟨ho, fun other hother => LeastFirst.le_of_append hm [] least ho hother⟩

/-- The result is a fault exactly if the names downstream contain a cycle. -/
theorem evaluationOrder_eq_error_iff (hm : g.Mirrored) (named : start ≠ "") :
    g.evaluationOrder start = .error (.circular start) ↔ ∃ x, TransGen (g.Within start) x x := by
  rcases evaluationOrder_cases hm named with ⟨order, ok, ho⟩ | ⟨error, _, nonempty, blocked⟩
  · rw [ok]
    exact ⟨nofun, fun ⟨x, cycle⟩ => absurd cycle (ho.not_transGen_within x)⟩
  · exact ⟨fun _ => exists_cycle_of_stuck nonempty blocked, fun _ => error⟩

/-- The result is exactly the lexicographically least evaluation order. -/
theorem evaluationOrder_eq_ok_iff (hm : g.Mirrored) (named : start ≠ "") :
    g.evaluationOrder start = .ok order ↔ IsLeast {o | g.IsEvaluationOrder start o} order := by
  refine ⟨isLeast_of_evaluationOrder hm named, fun least => ?_⟩
  rcases evaluationOrder_cases hm named with ⟨order', ok, _⟩ | ⟨_, _, nonempty, blocked⟩
  · rw [ok, (isLeast_of_evaluationOrder hm named ok).unique least]
  · obtain ⟨x, cycle⟩ := exists_cycle_of_stuck nonempty blocked
    exact absurd cycle (least.1.not_transGen_within x)

/-- For every graph reached by operations: the evaluation order of a name is refused exactly if the names
reachable from it contain a cycle. Otherwise it is the lexicographically least of all lists of these
names in which each follows its precedents, it begins with the given name, and it is the same for all
iteration orders of the sets. -/
theorem run_evaluationOrder_isLeast (ops : List Operation) {start : String} (named : start ≠ "") :
    let g := empty.run ops
    (g.evaluationOrder start = .error (.circular start) ↔ ∃ x, TransGen (g.Within start) x x) ∧
    ((∃ order, g.evaluationOrder start = .ok order) ↔ ¬ ∃ x, TransGen (g.Within start) x x) ∧
    (∀ order, g.evaluationOrder start = .ok order ↔ IsLeast {o | g.IsEvaluationOrder start o} order) ∧
    (∀ order, g.evaluationOrder start = .ok order → order.head? = some start) ∧
    ∀ v : g.Visit, v.evaluationOrder start = g.evaluationOrder start := by
  intro g
  have hm : g.Mirrored := (run_represents ops).mirrored
  refine ⟨evaluationOrder_eq_error_iff hm named, ?_, fun order => evaluationOrder_eq_ok_iff hm named,
    fun order ok => (isEvaluationOrder_of_ok hm named ok).head?_eq, fun v => v.evaluationOrder_eq start⟩
  rw [← evaluationOrder_eq_error_iff hm named]
  rcases evaluationOrder_cases hm named with ⟨order, ok, _⟩ | ⟨error, _⟩
  · simp [ok]
  · simp [error]

/-- `C1` and `B2` are ready together; `B1` is less than `C1` but becomes ready only after it. A cycle
upstream of `C1` has no effect on the order of `A1`. -/
theorem run_evaluationOrder_isLeast_greedy :
    let ops : List Operation := [.setDependents "A1" ["C1", "B2"], .add "C1" "B1", .add "D1" "D1",
      .setPrecedents "C1" ["D1", "A1"]]
    let g := empty.run ops
    "A1" ≠ "" ∧ g.evaluationOrder "A1" = .ok ["A1", "B2", "C1", "B1"] ∧
      IsLeast {o | g.IsEvaluationOrder "A1" o} ["A1", "B2", "C1", "B1"] ∧
      "D1" ≠ "" ∧ g.evaluationOrder "D1" = .error (.circular "D1") ∧
      ∃ x, TransGen (g.Within "D1") x x := by
  intro ops g
  have order : g.evaluationOrder "A1" = .ok ["A1", "B2", "C1", "B1"] := by decide +kernel
  have circle : g.evaluationOrder "D1" = .error (.circular "D1") := by decide +kernel
  exact ⟨by decide, order, ((run_evaluationOrder_isLeast ops (by decide)).2.2.1 _).mp order,
    by decide, circle, (run_evaluationOrder_isLeast ops (by decide)).1.mp circle⟩

end Worksheet.Graph
