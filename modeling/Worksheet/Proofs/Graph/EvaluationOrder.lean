import Worksheet.Proofs.Graph.Countdown
import Mathlib.Order.WellFounded

/-! Correctness of the evaluation order: it lists the names downstream of the start, each after its
precedents, and it exists if the edges are well-founded. -/
namespace Worksheet.Graph
open Relation

/-- A duplicate-free list of the names reachable from `start` in which no edge leads to an earlier name
or to the same one. -/
structure IsEvaluationOrder (g : Graph) (start : String) (order : List String) : Prop where
  nodup : order.Nodup
  mem_iff : ∀ x, x ∈ order ↔ g.Leads start x
  forward : order.Pairwise fun earlier later => ¬ g.HasEdge later earlier
  irrefl : ∀ x ∈ order, ¬ g.HasEdge x x

namespace IsEvaluationOrder
variable {g : Graph} {start : String} {order : List String}

theorem start_mem (h : g.IsEvaluationOrder start order) : start ∈ order := (h.mem_iff start).mpr .refl

theorem mem_of_edge (h : g.IsEvaluationOrder start order) {x y : String} (hx : x ∈ order)
    (edge : g.HasEdge x y) : y ∈ order :=
  (h.mem_iff y).mpr (((h.mem_iff x).mp hx).tail edge)

theorem idxOf_lt_of_edge (h : g.IsEvaluationOrder start order) {x y : String} (hx : x ∈ order)
    (edge : g.HasEdge x y) : order.idxOf x < order.idxOf y := by
  have ix := List.idxOf_lt_length_iff.mpr hx
  have iy := List.idxOf_lt_length_iff.mpr (h.mem_of_edge hx edge)
  have gx := List.getElem_idxOf ix
  have gy := List.getElem_idxOf iy
  by_contra hle
  rcases Nat.lt_or_eq_of_le (Nat.le_of_not_lt hle) with hlt | heq
  · have := List.pairwise_iff_getElem.mp h.forward _ _ iy ix hlt
    rw [gx, gy] at this
    exact this edge
  · have hxy : x = y := by
      rw [← gx, ← gy]
      simp only [heq]
    exact h.irrefl x hx (hxy ▸ edge)

theorem idxOf_lt (h : g.IsEvaluationOrder start order) {x y : String} (hx : x ∈ order)
    (path : TransGen g.HasEdge x y) : order.idxOf x < order.idxOf y := by
  have reached {z : String} (path : TransGen g.HasEdge x z) : z ∈ order :=
    (h.mem_iff z).mpr (((h.mem_iff x).mp hx).trans path.to_reflTransGen)
  induction path with
  | single edge => exact h.idxOf_lt_of_edge hx edge
  | tail path edge ih => exact ih.trans (h.idxOf_lt_of_edge (reached path) edge)

theorem acyclic (h : g.IsEvaluationOrder start order) {x : String} (hx : x ∈ order) :
    ¬ TransGen g.HasEdge x x := fun path =>
  Nat.lt_irrefl _ (h.idxOf_lt hx path)

end IsEvaluationOrder

theorem Settling.isEvaluationOrder {g : Graph} {start : String} {settled : List String}
    (h : g.Settling (g.downstream start) settled) (hm : g.Mirrored)
    (all : ∀ x ∈ g.downstream start, x ∈ settled) : g.IsEvaluationOrder start settled.reverse := by
  obtain ⟨forward, irrefl⟩ := h.no_edge_back hm
  refine ⟨List.nodup_reverse.mpr h.nodup, ?_, List.pairwise_reverse.mpr forward, ?_⟩
  · intro x
    rw [List.mem_reverse, ← mem_downstream]
    exact ⟨h.subset x, all x⟩
  · exact fun x hx => irrefl x (List.mem_reverse.mp hx)

theorem evaluationOrder_of_ne_empty (g : Graph) {start : String} (hs : start ≠ "") :
    g.evaluationOrder start =
      let names := g.downstream start
      let settled := ((Countdown.start g names).run g names.size).settled
      if settled.length = names.size then .ok settled.reverse else .error (.circular start) := by
  rw [evaluationOrder, Fault.checkIdentifier_eq_ok hs]
  rfl

/-- The result is an evaluation order, or a circularity fault together with a nonempty set of reachable
names in which each has a precedent. -/
theorem evaluationOrder_cases {g : Graph} (hm : g.Mirrored) {start : String} (hs : start ≠ "") :
    (∃ order, g.evaluationOrder start = .ok order ∧ g.IsEvaluationOrder start order) ∨
      g.evaluationOrder start = .error (.circular start) ∧
        ∃ stuck : Set String, stuck.Nonempty ∧
          ∀ x ∈ stuck, g.Leads start x ∧ ∃ p ∈ stuck, g.HasEdge p x := by
  let names := g.downstream start
  let c := (Countdown.start g names).run g names.size
  have sound : Countdown.Sound g names c := (Countdown.start_sound g names).run hm _
  have outcome := evaluationOrder_of_ne_empty g hs
  by_cases count : c.settled.length = names.size
  · refine .inl ⟨c.settled.reverse, outcome.trans (if_pos count), ?_⟩
    exact sound.settling.isEvaluationOrder hm (sound.length_settled_iff.mp count)
  · refine .inr ⟨outcome.trans (if_neg count), {x | x ∈ names ∧ x ∉ c.settled}, ?_, ?_⟩
    · by_contra none
      exact count (sound.length_settled_iff.mpr fun x hx => by_contra fun unsettled => none ⟨x, hx, unsettled⟩)
    · rintro x ⟨hx, unsettled⟩
      have rest : c.ready = ∅ := by
        rcases Countdown.run_progress g names.size (Countdown.start g names) with h | h
        · exact h
        · exact absurd (h.trans (Nat.zero_add _)) count
      obtain ⟨p, hp⟩ := sound.exists_pending rest hx unsettled
      obtain ⟨precedes, hpn, hps⟩ := mem_pending.mp hp
      exact ⟨(mem_downstream g start x).mp hx, p, ⟨hpn, hps⟩, (hm p x).mpr precedes⟩

theorem isEvaluationOrder_of_ok {g : Graph} (hm : g.Mirrored) {start : String} (hs : start ≠ "")
    {order : List String} (h : g.evaluationOrder start = .ok order) : g.IsEvaluationOrder start order := by
  rcases evaluationOrder_cases hm hs with ⟨order', ho, hv⟩ | ⟨he, _⟩
  · cases ho.symm.trans h
    exact hv
  · cases he.symm.trans h

theorem evaluationOrder_of_wellFounded {g : Graph} (hm : g.Mirrored) {start : String} (hs : start ≠ "")
    (wf : WellFounded g.HasEdge) : ∃ order, g.evaluationOrder start = .ok order := by
  rcases evaluationOrder_cases hm hs with ⟨order, ho, _⟩ | ⟨_, stuck, nonempty, h⟩
  · exact ⟨order, ho⟩
  · obtain ⟨x, hx, least⟩ := wf.has_min stuck nonempty
    obtain ⟨_, p, hp, edge⟩ := h x hx
    exact absurd edge (least p hp)

end Worksheet.Graph
