import Worksheet.Proofs.Sheet.Run

/-! Values as a function of contents, defined by well-founded recursion along references. -/
namespace Worksheet

/-- The contents of `t` refer to `p`. -/
def Refers (contents : String → Contents) (p t : String) : Prop := p ∈ (contents t).precedents

/-- The values computed from contents whose references are well-founded. -/
def recomputed (contents : String → Contents) (wf : WellFounded (Refers contents)) (t : String) : Value :=
  (contents t).evaluate fun p =>
    if _ : p ∈ (contents t).precedents then (recomputed contents wf p).number? else none
termination_by wf.wrap t
decreasing_by assumption

section
variable {contents : String → Contents} (wf : WellFounded (Refers contents))

theorem recomputed_eq (t : String) :
    recomputed contents wf t = (contents t).evaluate fun p => (recomputed contents wf p).number? := by
  rw [recomputed]
  exact Contents.evaluate_congr fun p hp => dif_pos hp

/-- The evaluation equations have a unique solution. -/
theorem eq_recomputed {values : String → Value}
    (settled : ∀ t, values t = (contents t).evaluate fun p => (values p).number?) :
    values = recomputed contents wf := by
  funext t
  induction t using wf.induction with
  | _ t ih =>
    rw [settled, recomputed_eq]
    exact Contents.evaluate_congr fun p hp => by rw [ih p hp]

end

namespace Sheet

theorem Consistent.wellFounded_refers {s : Sheet} (hs : s.Consistent) :
    WellFounded (Refers s.cells.contents) :=
  Subrelation.wf (fun h => hs.graph.hasEdge_iff.mpr (Cells.mem_references.mpr h)) hs.wellFounded

theorem Consistent.value_eq_recomputed {s : Sheet} (hs : s.Consistent) :
    s.cells.value = recomputed s.cells.contents hs.wellFounded_refers :=
  eq_recomputed hs.wellFounded_refers hs.settled

end Sheet
end Worksheet
