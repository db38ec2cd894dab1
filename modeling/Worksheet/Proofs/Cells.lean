import Worksheet.Sheet.Edit
import Worksheet.Proofs.Formula.Lookup
import Worksheet.Proofs.Graph.Edges
import Mathlib.Data.List.Nodup

/-! Extensional facts about cells, the edges that their formulas require, and recalculation along an
order in which every cell follows the cells that it reads. -/
namespace Worksheet

theorem Contents.isEmpty_iff {c : Contents} : c.isEmpty = true ↔ c = .empty := by
  cases c with
  | text s => simp [isEmpty, text?, empty]
  | number _ | formula _ => simp [isEmpty, text?, empty]

theorem Contents.mem_precedents {c : Contents} {p : String} :
    p ∈ c.precedents ↔ ∃ f, c = .formula f ∧ p ∈ f.variableNames := by
  cases c with
  | formula f => simp [precedents]
  | number _ | text _ => simp [precedents]

namespace Cells

theorem get?_injective : Function.Injective get? := by
  intro s t same
  cases s
  cases t
  exact congrArg Cells.mk (Std.ExtTreeMap.ext_getElem? fun {n} => congrFun same n)

theorem contents_of_get? {s : Cells} {id : String} {cell : Cell} (h : s.get? id = some cell) :
    s.contents id = cell.contents := by
  rw [contents, h, Option.map_some, Option.getD_some]

theorem contents_of_not_contains {s : Cells} {id : String} (h : s.contains id = false) :
    s.contents id = .empty := by
  rw [contains, Option.isSome_eq_false_iff, Option.isNone_iff_eq_none] at h
  rw [contents, h]
  rfl

theorem value_of_not_contains {s : Cells} {id : String} (h : s.contains id = false) :
    s.value id = .empty := by
  rw [contains, Option.isSome_eq_false_iff, Option.isNone_iff_eq_none] at h
  rw [value, h]
  rfl

/-- If no stored contents are empty, a cell exists exactly when its contents are not empty. -/
theorem contains_iff {s : Cells} {id : String} (filled : s.contains id = true → s.contents id ≠ .empty) :
    s.contains id = true ↔ s.contents id ≠ .empty := by
  refine ⟨filled, fun ne => ?_⟩
  by_contra absent
  exact ne (contents_of_not_contains (Bool.eq_false_iff.mpr absent))

theorem mem_names {s : Cells} {n : String} : n ∈ s.names ↔ s.contains n = true := by
  rw [names, Std.ExtTreeMap.mem_keys, Std.ExtTreeMap.mem_iff_isSome_getElem?]
  rfl

theorem get?_insert (s : Cells) (id : String) (cell : Cell) (n : String) :
    (⟨s.byName.insert id cell⟩ : Cells).get? n = if n = id then some cell else s.get? n := by
  simp only [get?, Std.ExtTreeMap.getElem?_insert, Std.compare_eq_iff_eq, @eq_comm _ n]

theorem get?_erase (s : Cells) (id n : String) :
    (⟨s.byName.erase id⟩ : Cells).get? n = if n = id then none else s.get? n := by
  simp only [get?, Std.ExtTreeMap.getElem?_erase, Std.compare_eq_iff_eq, @eq_comm _ n]

theorem mem_precedents_contents {s : Cells} {p t : String} :
    p ∈ (s.contents t).precedents ↔ ∃ cell, s.get? t = some cell ∧ p ∈ cell.contents.precedents := by
  constructor
  · intro hp
    cases hc : s.get? t with
    | none =>
      rw [contents_of_not_contains (by rw [contains, hc]; rfl)] at hp
      exact absurd hp Std.ExtTreeSet.not_mem_empty
    | some cell =>
      rw [contents_of_get? hc] at hp
      exact ⟨cell, rfl, hp⟩
  · intro h
    obtain ⟨cell, hc, hp⟩ := h
    rwa [contents_of_get? hc]

/-- The edges from the names that formulas refer to, to the cells that hold these formulas. -/
def references (s : Cells) : Edges :=
  (s.byName.toList.flatMap fun c => c.2.contents.precedents.toList.map fun p => (p, c.1)).toFinset

theorem mem_references {s : Cells} {p t : String} :
    (p, t) ∈ s.references ↔ p ∈ (s.contents t).precedents := by
  rw [references, List.mem_toFinset, List.mem_flatMap, mem_precedents_contents]
  simp only [List.mem_map, Std.ExtTreeSet.mem_toList, Prod.mk.injEq]
  constructor
  · intro h
    obtain ⟨⟨t', cell⟩, hc, p', hp, rfl, rfl⟩ := h
    exact ⟨cell, Std.ExtTreeMap.mem_toList_iff_getElem?_eq_some.mp hc, hp⟩
  · intro h
    obtain ⟨cell, hc, hp⟩ := h
    exact ⟨(t, cell), Std.ExtTreeMap.mem_toList_iff_getElem?_eq_some.mpr hc, p, hp, rfl, rfl⟩

/-- Storing contents removes the cell or keeps its last value, and changes no other cell. -/
theorem store_spec (s : Cells) {id : String} (hid : id ≠ "") (c : Contents) :
    ∃ t, (store id c).run s = (.ok (), t) ∧ ∀ n, t.get? n =
      if n = id then if c.isEmpty then none else some ⟨c, s.value id⟩ else s.get? n := by
  refine ⟨_, Update.run_checked (fun _ mem => List.mem_singleton.mp mem ▸ hid) _ s, fun n => ?_⟩
  cases c.isEmpty with
  | true => exact get?_erase s id n
  | false => exact get?_insert s id ⟨c, s.value id⟩ n

/-- Reevaluating gives a cell the value of its contents and changes nothing else. The lookup reads the
cells as they were before. -/
theorem reevaluate_spec (s : Cells) {id : String} (hid : id ≠ "") {cell : Cell} (hc : s.get? id = some cell)
    (lookup : Cells → String → Option Float) :
    ∃ t, (reevaluate id lookup).run s = (.ok (cell.contents.evaluate (lookup s)), t) ∧ ∀ n, t.get? n =
      if n = id then some ⟨cell.contents, cell.contents.evaluate (lookup s)⟩ else s.get? n := by
  refine ⟨⟨s.byName.insert id ⟨cell.contents, cell.contents.evaluate (lookup s)⟩⟩, ?_, get?_insert s id _⟩
  rw [reevaluate, Fault.checkIdentifier_eq_ok hid]
  simp only [Update.run_bind, Update.run_liftM, Update.run_get, hc]
  rfl

theorem contents_store {s t : Cells} {id : String} {c : Contents} (h : (store id c).run s = (.ok (), t))
    (hid : id ≠ "") (n : String) : t.contents n = if n = id then c else s.contents n := by
  obtain ⟨t', ht, hg⟩ := s.store_spec hid c
  cases h.symm.trans ht
  rw [contents, hg n, contents]
  by_cases hn : n = id
  · rw [if_pos hn, if_pos hn]
    cases he : c.isEmpty with
    | true => exact (Contents.isEmpty_iff.mp he).symm
    | false => rfl
  · rw [if_neg hn, if_neg hn]

theorem references_store {s t : Cells} {id : String} {c : Contents} (h : (store id c).run s = (.ok (), t))
    (hid : id ≠ "") : t.references = s.references.redirect id c.precedents.toList := by
  ext ⟨p, n⟩
  rw [mem_references, contents_store h hid, Edges.mem_redirect, Std.ExtTreeSet.mem_toList, mem_references]
  split <;> rfl

/-- The cells `t` agree with `s` outside `order` and in all contents, and within `order` every value in
`t` is that of its contents, evaluated in `t`. -/
structure Recalculated (s t : Cells) (order : List String) : Prop where
  contents : ∀ n, t.contents n = s.contents n
  contains : ∀ n, t.contains n = s.contains n
  kept : ∀ n, n ∉ order → t.get? n = s.get? n
  value : ∀ n ∈ order, t.value n = (s.contents n).evaluate t.number?

namespace Recalculated
variable {s t u : Cells} {x : String} {order : List String}

theorem number? (h : Recalculated s t order) {n : String} (hn : n ∉ order) :
    t.number? n = s.number? n := by
  rw [Cells.number?, Cells.value, h.kept n hn]
  rfl

theorem skip (hx : s.contains x = false) : Recalculated s s [x] := by
  refine ⟨fun _ => rfl, fun _ => rfl, fun _ _ => rfl, fun n hn => ?_⟩
  rw [List.mem_singleton.mp hn, value_of_not_contains hx, contents_of_not_contains hx]
  rfl

/-- Reevaluating a cell that does not read itself establishes `Recalculated` for this cell. -/
theorem reevaluate (hid : x ≠ "") (hx : s.contains x = true) (irrefl : x ∉ (s.contents x).precedents) :
    ∃ u, (Cells.reevaluate x Cells.number?).run s = (.ok (u.value x), u) ∧ Recalculated s u [x] := by
  obtain ⟨cell, hc⟩ := Option.isSome_iff_exists.mp hx
  obtain ⟨u, done, get⟩ := s.reevaluate_spec hid hc Cells.number?
  have value : u.value x = cell.contents.evaluate s.number? := by
    rw [Cells.value, get, if_pos rfl]
    rfl
  refine ⟨u, value ▸ done, ?_, ?_, ?_, ?_⟩
  · intro n
    by_cases hn : n = x
    · rw [hn, contents_of_get? hc, Cells.contents, get, if_pos rfl]
      rfl
    · rw [Cells.contents, get, if_neg hn, Cells.contents]
  · intro n
    by_cases hn : n = x
    · rw [hn, hx, Cells.contains, get, if_pos rfl]
      rfl
    · rw [Cells.contains, get, if_neg hn, Cells.contains]
  · intro n hn
    rw [get, if_neg (List.mem_singleton.not.mp hn)]
  · intro n hn
    rw [List.mem_singleton.mp hn, value, contents_of_get? hc]
    apply Contents.evaluate_congr
    intro p hp
    have other : p ≠ x := fun h => irrefl (contents_of_get? hc ▸ h ▸ hp)
    rw [Cells.number?, Cells.number?, Cells.value, Cells.value, get, if_neg other]

/-- Sequential composition. The first cell reads no later one, so its value remains correct. -/
theorem cons (first : Recalculated s u [x]) (rest : Recalculated u t order) (new : x ∉ order)
    (forward : ∀ later ∈ order, later ∉ (s.contents x).precedents) : Recalculated s t (x :: order) := by
  refine ⟨fun n => (rest.contents n).trans (first.contents n),
    fun n => (rest.contains n).trans (first.contains n), ?_, ?_⟩
  · intro n hn
    rw [List.mem_cons, not_or] at hn
    rw [rest.kept n hn.2, first.kept n (List.mem_singleton.not.mpr hn.1)]
  · intro n hn
    rcases List.mem_cons.mp hn with rfl | hn
    · rw [Cells.value, rest.kept n new, ← Cells.value, first.value n List.mem_cons_self]
      exact Contents.evaluate_congr fun p hp => (rest.number? fun h => forward p h hp).symm
    · rw [rest.value n hn, first.contents]

end Recalculated

/-- The events logged for the existing cells of an order, with their values in `s`. -/
def evaluations (s : Cells) (order : List String) : List Event :=
  (order.filter s.contains).map fun n => .evaluated n (s.value n)

theorem evaluations_cons (s : Cells) (x : String) (order : List String) :
    s.evaluations (x :: order) =
      if s.contains x then .evaluated x (s.value x) :: s.evaluations order else s.evaluations order := by
  rw [evaluations, List.filter_cons]
  split <;> rfl

theorem run_recalculate_absent {s : Cells} {x : String} (hx : s.contains x = false) (order : List String) :
    (recalculate (x :: order)).run s = (recalculate order).run s := by
  simp only [recalculate, Update.run_bind, Update.run_get, hx, Bool.false_eq_true, if_false]

theorem run_recalculate_present {s u t : Cells} {x : String} {value : Value} {order : List String}
    {log : List Event} (hx : s.contains x = true) (hu : (reevaluate x number?).run s = (.ok value, u))
    (ht : (recalculate order).run u = (.ok log, t)) :
    (recalculate (x :: order)).run s = (.ok (.evaluated x value :: log), t) := by
  simp only [recalculate, Update.run_bind, Update.run_get, hx, if_true, hu, ht, Update.run_pure]

/-- Recalculation succeeds along any order in which no cell reads itself or a later one. It establishes
`Recalculated` and logs the final values. -/
theorem recalculate_spec {s : Cells} {order : List String} (named : ∀ n, s.contains n = true → n ≠ "")
    (nodup : order.Nodup)
    (forward : order.Pairwise fun earlier later => later ∉ (s.contents earlier).precedents)
    (irrefl : ∀ n ∈ order, n ∉ (s.contents n).precedents) :
    ∃ t, (recalculate order).run s = (.ok (t.evaluations order), t) ∧ Recalculated s t order := by
  induction order generalizing s with
  | nil => exact ⟨s, rfl, fun _ => rfl, fun _ => rfl, fun _ _ => rfl, nofun⟩
  | cons x order ih =>
    obtain ⟨new, nodup⟩ := List.nodup_cons.mp nodup
    obtain ⟨first, forward⟩ := List.pairwise_cons.mp forward
    have rest (n : String) (hn : n ∈ order) := irrefl n (List.mem_cons_of_mem x hn)
    cases hx : s.contains x with
    | false =>
      obtain ⟨t, he, ht⟩ := ih named nodup forward rest
      have absent : ¬ t.contains x = true := by
        rw [ht.contains, hx]
        exact Bool.false_ne_true
      refine ⟨t, ?_, (Recalculated.skip hx).cons ht new first⟩
      rw [evaluations_cons, if_neg absent, run_recalculate_absent hx, he]
    | true =>
      obtain ⟨u, hu, step⟩ := Recalculated.reevaluate (named x hx) hx (irrefl x List.mem_cons_self)
      have same : u.contents = s.contents := funext step.contents
      obtain ⟨t, he, ht⟩ := ih (s := u) (fun n hn => named n (step.contains n ▸ hn)) nodup
        (same ▸ forward) (same ▸ rest)
      have whole := step.cons ht new first
      have kept : t.value x = u.value x := by
        rw [value, ht.kept x new]
        rfl
      refine ⟨t, ?_, whole⟩
      rw [evaluations_cons, if_pos ((whole.contains x).trans hx), kept]
      exact run_recalculate_present hx hu he

end Cells
end Worksheet
