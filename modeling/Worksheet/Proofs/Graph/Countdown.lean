import Worksheet.Proofs.NameSet
import Worksheet.Proofs.Graph.Downstream
import Mathlib.Data.String.Basic

/-! Invariant and progress of the topological sort. It stops early only if no unsettled name has all its
precedents settled. -/
namespace Worksheet.Graph

/-- The precedents of `x` among `names` that are not settled. -/
def pending (g : Graph) (names : NameSet) (settled : List String) (x : String) : NameSet :=
  (g.precedents x).filter fun p => p ∈ names ∧ p ∉ settled

theorem mem_pending {g : Graph} {names : NameSet} {settled : List String} {x p : String} :
    p ∈ g.pending names settled x ↔ p ∈ g.precedents x ∧ p ∈ names ∧ p ∉ settled := by
  rw [pending, NameSet.mem_filter, decide_eq_true_iff]

theorem pending_cons (g : Graph) (names : NameSet) (settled : List String) (name x : String) :
    g.pending names (name :: settled) x = (g.pending names settled x).erase name := by
  apply Std.ExtTreeSet.ext_mem
  intro p
  rw [NameSet.mem_erase, mem_pending, mem_pending, List.mem_cons]
  tauto

/-- Sequences of settled names, the latest first. Each name is new, and its precedents among `names` are
settled before it. -/
inductive Settling (g : Graph) (names : NameSet) : List String → Prop
  | nil : Settling g names []
  | cons {x : String} {earlier : List String} (mem : x ∈ names) (new : x ∉ earlier)
      (free : g.pending names earlier x = ∅) (before : Settling g names earlier) :
      Settling g names (x :: earlier)

namespace Settling
variable {g : Graph} {names : NameSet} {settled : List String}

theorem nodup (h : Settling g names settled) : settled.Nodup := by
  induction h with
  | nil => exact List.nodup_nil
  | cons _ new _ _ ih => exact List.nodup_cons.mpr ⟨new, ih⟩

theorem subset (h : Settling g names settled) : ∀ x ∈ settled, x ∈ names := by
  induction h with
  | nil => exact fun x hx => absurd hx List.not_mem_nil
  | cons mem _ _ _ ih =>
    intro x hx
    rcases List.mem_cons.mp hx with rfl | hx
    · exact mem
    · exact ih x hx

theorem pending_eq_empty (h : Settling g names settled) :
    ∀ x ∈ settled, g.pending names settled x = ∅ := by
  induction h with
  | nil => exact fun x hx => absurd hx List.not_mem_nil
  | @cons y earlier _ _ free _ ih =>
    intro x hx
    have none : g.pending names earlier x = ∅ := by
      rcases List.mem_cons.mp hx with rfl | hx
      · exact free
      · exact ih x hx
    rw [pending_cons, none, Std.ExtTreeSet.erase_empty]

theorem no_edge_back (h : Settling g names settled) (hm : g.Mirrored) :
    settled.Pairwise (fun later earlier => ¬ g.HasEdge later earlier) ∧
      ∀ x ∈ settled, ¬ g.HasEdge x x := by
  induction h with
  | nil => exact ⟨.nil, fun x hx => absurd hx List.not_mem_nil⟩
  | @cons y earlier mem new free before ih =>
    have fresh (x : String) (hx : g.pending names earlier x = ∅) : ¬ g.HasEdge y x := fun edge =>
      Std.ExtTreeSet.not_mem_empty (hx ▸ mem_pending.mpr ⟨(hm y x).mp edge, mem, new⟩)
    refine ⟨List.pairwise_cons.mpr ⟨fun x hx => fresh x (before.pending_eq_empty x hx), ih.1⟩, ?_⟩
    intro x hx
    rcases List.mem_cons.mp hx with rfl | hx
    · exact fresh x free
    · exact ih.2 x hx

end Settling

namespace Countdown

theorem release_settled (c : Countdown) (name : String) : (c.release name).settled = c.settled := by
  rw [release]
  split <;> rfl

theorem release_waiting (c : Countdown) (name x : String) :
    (c.release name).waiting[x]? =
      if x = name then c.waiting[x]?.map (· - 1) else c.waiting[x]? := by
  rw [release]
  split
  · next h =>
    split
    · next hx => rw [hx, h, Option.map_none]
    · rfl
  · next n h =>
    simp only [Std.ExtTreeMap.getElem?_insert, Std.compare_eq_iff_eq]
    by_cases hx : name = x
    · rw [if_pos hx, if_pos hx.symm, ← hx, h, Option.map_some]
    · rw [if_neg hx, if_neg (Ne.symm hx)]

theorem mem_release_ready (c : Countdown) (name x : String) :
    x ∈ (c.release name).ready ↔
      x ∈ c.ready ∨ (x = name ∧ c.waiting[x]?.map (· - 1) = some 0) := by
  rw [release]
  split
  · next h =>
    constructor
    · exact .inl
    · rintro (hx | ⟨rfl, zero⟩)
      · exact hx
      · rw [h, Option.map_none] at zero
        cases zero
  · next n h =>
    by_cases zero : n - 1 = 0
    · simp only [zero, if_true, NameSet.mem_insert]
      constructor
      · rintro (rfl | hx)
        · exact .inr ⟨rfl, by rw [h, Option.map_some, zero]⟩
        · exact .inl hx
      · rintro (hx | ⟨hx, _⟩)
        · exact .inr hx
        · exact .inl hx
    · simp only [zero, if_false]
      constructor
      · exact .inl
      · rintro (hx | ⟨rfl, hz⟩)
        · exact hx
        · rw [h, Option.map_some] at hz
          exact absurd (Option.some.inj hz) zero

theorem foldl_release_settled (c : Countdown) (names : List String) :
    (names.foldl release c).settled = c.settled := by
  induction names generalizing c with
  | nil => rfl
  | cons name names ih => rw [List.foldl_cons, ih, release_settled]

theorem foldl_release_waiting (c : Countdown) {names : List String} (nodup : names.Nodup) (x : String) :
    (names.foldl release c).waiting[x]? =
      if x ∈ names then c.waiting[x]?.map (· - 1) else c.waiting[x]? := by
  induction names generalizing c with
  | nil => rw [List.foldl_nil, if_neg List.not_mem_nil]
  | cons name names ih =>
    obtain ⟨new, nodup⟩ := List.nodup_cons.mp nodup
    rw [List.foldl_cons, ih _ nodup, release_waiting]
    by_cases hx : x = name
    · subst hx
      rw [if_neg new, if_pos rfl, if_pos List.mem_cons_self]
    · simp only [List.mem_cons, hx, if_false, false_or]

theorem mem_foldl_release_ready (c : Countdown) {names : List String} (nodup : names.Nodup)
    (x : String) :
    x ∈ (names.foldl release c).ready ↔
      x ∈ c.ready ∨ (x ∈ names ∧ c.waiting[x]?.map (· - 1) = some 0) := by
  induction names generalizing c with
  | nil => simp
  | cons name names ih =>
    obtain ⟨new, nodup⟩ := List.nodup_cons.mp nodup
    rw [List.foldl_cons, ih _ nodup, mem_release_ready, release_waiting, List.mem_cons]
    by_cases hx : x = name
    · subst hx
      simp [new]
    · simp [hx]

/-- The result of releasing names does not depend on their order. -/
theorem foldl_release_perm (c : Countdown) {names names' : List String} (nodup : names'.Nodup)
    (perm : names.Perm names') : names.foldl release c = names'.foldl release c := by
  have nodup' : names.Nodup := perm.nodup_iff.mpr nodup
  have waiting : (names.foldl release c).waiting = (names'.foldl release c).waiting :=
    Std.ExtTreeMap.ext_getElem? fun {x} => by
      rw [foldl_release_waiting c nodup, foldl_release_waiting c nodup']
      simp only [perm.mem_iff]
  have ready : (names.foldl release c).ready = (names'.foldl release c).ready :=
    Std.ExtTreeSet.ext_mem fun {x} => by
      rw [mem_foldl_release_ready c nodup, mem_foldl_release_ready c nodup', perm.mem_iff]
  have settled := (foldl_release_settled c names).trans (foldl_release_settled c names').symm
  cases hn : names.foldl release c
  cases hn' : names'.foldl release c
  simp_all

/-- The invariant of the sort: counts are numbers of pending precedents, and the ready names are the
unsettled ones without pending precedents. -/
structure Sound (g : Graph) (names : NameSet) (c : Countdown) : Prop where
  settling : Settling g names c.settled
  waiting : ∀ x, c.waiting[x]? =
    if x ∈ names then some (g.pending names c.settled x).size else none
  mem_ready : ∀ x, x ∈ c.ready ↔ x ∈ names ∧ x ∉ c.settled ∧ g.pending names c.settled x = ∅

theorem start_eq (g : Graph) (names : NameSet) : start g names =
    ⟨Std.ExtTreeMap.ofList (names.toList.map fun x => (x, (g.pending names [] x).size)),
      names.filter fun x => (g.pending names [] x).size = 0, []⟩ := by
  have count (x : String) : (g.precedents x).filter (· ∈ names) = g.pending names [] x := by
    apply Std.ExtTreeSet.ext_mem
    intro p
    rw [NameSet.mem_filter, mem_pending, decide_eq_true_iff]
    simp
  simp only [start, count]

theorem getElem?_counts {counted : List String} (nodup : counted.Nodup) (count : String → Nat) (x : String) :
    (Std.ExtTreeMap.ofList (counted.map fun y => (y, count y)) : Std.ExtTreeMap String Nat)[x]? =
      if x ∈ counted then some (count x) else none := by
  split
  · next hx =>
    have apart : counted.Pairwise fun a b => ¬ compare a b = .eq :=
      nodup.imp fun ne => mt Std.compare_eq_iff_eq.mp ne
    exact Std.ExtTreeMap.getElem?_ofList_of_mem Std.ReflCmp.compare_self (List.pairwise_map.mpr apart)
      (List.mem_map.mpr ⟨x, hx, rfl⟩)
  · next hx =>
    have keys : (counted.map fun y => (y, count y)).map Prod.fst = counted := by
      rw [List.map_map]
      exact List.map_id' _
    refine Std.ExtTreeMap.getElem?_ofList_of_contains_eq_false ?_
    rwa [keys, ← Bool.not_eq_true, List.contains_iff_mem]

theorem start_sound (g : Graph) (names : NameSet) : Sound g names (start g names) := by
  rw [start_eq]
  refine ⟨.nil, ?_, ?_⟩
  · intro x
    rw [getElem?_counts (NameSet.nodup_toList names)]
    simp only [Std.ExtTreeSet.mem_toList]
  · intro x
    rw [NameSet.mem_filter, decide_eq_true_iff, NameSet.size_eq_zero]
    simp

namespace Sound
variable {g : Graph} {names : NameSet} {c : Countdown}

theorem step_idle (h : c.ready = ∅) : c.step g = c := by
  rw [Countdown.step, h, Std.ExtTreeSet.toList_eq_nil_iff.mpr rfl]

theorem step_eq (h : c.ready ≠ ∅) : ∃ name ∈ c.ready, (∀ x ∈ c.ready, name ≤ x) ∧ c.step g =
    (g.dependents name).toList.foldl release ⟨c.waiting, c.ready.erase name, name :: c.settled⟩ := by
  cases hl : c.ready.toList with
  | nil => exact absurd (Std.ExtTreeSet.toList_eq_nil_iff.mp hl) h
  | cons name rest =>
    have mem (x : String) : x ∈ c.ready ↔ x ∈ name :: rest := by rw [← hl, Std.ExtTreeSet.mem_toList]
    have ordered := hl ▸ Std.ExtTreeSet.ordered_toList (t := c.ready)
    refine ⟨name, (mem name).mpr List.mem_cons_self, fun x hx => ?_, by rw [Countdown.step, hl]⟩
    rcases List.mem_cons.mp ((mem x).mp hx) with rfl | hx
    · exact le_rfl
    · exact (compare_lt_iff_lt.mp (List.rel_of_pairwise_cons ordered hx)).le

/-- A ready name is pending for each of its dependents. -/
theorem mem_pending_of_ready (hm : g.Mirrored) (hc : Sound g names c) {name x : String} (hn : name ∈ c.ready) :
    name ∈ g.pending names c.settled x ↔ g.HasEdge name x := by
  obtain ⟨mem, new, -⟩ := (hc.mem_ready name).mp hn
  rw [mem_pending, HasEdge, hm]
  exact ⟨And.left, fun h => ⟨h, mem, new⟩⟩

/-- A name with a pending precedent is neither ready nor settled. -/
theorem not_ready_or_settled (hc : Sound g names c) {p x : String} (waits : p ∈ g.pending names c.settled x) :
    ¬ (x ∈ c.ready ∨ x ∈ c.settled) := by
  have blocked : g.pending names c.settled x ≠ ∅ := fun none => Std.ExtTreeSet.not_mem_empty (none ▸ waits)
  rintro (ready | settled)
  · exact blocked ((hc.mem_ready x).mp ready).2.2
  · exact blocked (hc.settling.pending_eq_empty x settled)

/-- Settling a ready name preserves the invariant. -/
theorem settle (hm : g.Mirrored) (hc : Sound g names c) {name : String} (hn : name ∈ c.ready) :
    Sound g names
      ((g.dependents name).toList.foldl release ⟨c.waiting, c.ready.erase name, name :: c.settled⟩) := by
  obtain ⟨mem, new, free⟩ := (hc.mem_ready name).mp hn
  have nodup := NameSet.nodup_toList (g.dependents name)
  have dependent (x : String) :
      x ∈ (g.dependents name).toList ↔ name ∈ g.pending names c.settled x :=
    Std.ExtTreeSet.mem_toList.trans (hc.mem_pending_of_ready hm hn).symm
  refine ⟨?_, ?_, ?_⟩
  · rw [foldl_release_settled]
    exact .cons mem new free hc.settling
  · intro x
    rw [foldl_release_waiting _ nodup, foldl_release_settled, hc.waiting, pending_cons]
    by_cases hx : x ∈ names
    · simp only [hx, if_true, Option.map_some]
      split
      · next hd => rw [NameSet.size_erase_of_mem ((dependent x).mp hd)]
      · next hd => rw [NameSet.erase_of_not_mem (mt (dependent x).mpr hd)]
    · simp only [hx, if_false, Option.map_none, ite_self]
  · intro x
    rw [mem_foldl_release_ready _ nodup, foldl_release_settled, pending_cons, NameSet.mem_erase,
      hc.mem_ready, hc.waiting, dependent, List.mem_cons]
    constructor
    · rintro (⟨other, hx, unsettled, none⟩ | ⟨waits, zero⟩)
      · refine ⟨hx, ?_, by rw [none, Std.ExtTreeSet.erase_empty]⟩
        rintro (rfl | settled)
        · exact other rfl
        · exact unsettled settled
      · have hx : x ∈ names := by
          by_contra hx
          rw [if_neg hx] at zero
          cases zero
        rw [if_pos hx, Option.map_some, Option.some.injEq] at zero
        refine ⟨hx, ?_, ?_⟩
        · rintro (rfl | settled)
          · exact hc.not_ready_or_settled waits (.inl hn)
          · exact hc.not_ready_or_settled waits (.inr settled)
        · rw [← NameSet.size_eq_zero, NameSet.size_erase_of_mem waits, zero]
    · rintro ⟨hx, unsettled, none⟩
      by_cases waits : name ∈ g.pending names c.settled x
      · refine .inr ⟨waits, ?_⟩
        rw [if_pos hx, Option.map_some, ← NameSet.size_erase_of_mem waits, none]
        rfl
      · rw [NameSet.erase_of_not_mem waits] at none
        exact .inl ⟨fun e => unsettled (.inl e), hx, fun h => unsettled (.inr h), none⟩

theorem step (hm : g.Mirrored) (hc : Sound g names c) : Sound g names (c.step g) := by
  by_cases idle : c.ready = ∅
  · rwa [step_idle idle]
  · obtain ⟨name, hn, _, he⟩ := step_eq (g := g) idle
    rw [he]
    exact hc.settle hm hn

theorem run (hm : g.Mirrored) (hc : Sound g names c) (n : Nat) : Sound g names (Countdown.run g n c) := by
  induction n generalizing c with
  | zero => exact hc
  | succ n ih => exact ih (hc.step hm)

/-- The count of settled names is complete exactly if all names are settled. -/
theorem length_settled_iff (hc : Sound g names c) :
    c.settled.length = names.size ↔ ∀ x ∈ names, x ∈ c.settled := by
  constructor
  · intro count x hx
    have perm : c.settled.Perm names.toList := by
      refine (List.subperm_of_subset hc.settling.nodup fun y hy => ?_).perm_of_length_le ?_
      · exact Std.ExtTreeSet.mem_toList.mpr (hc.settling.subset y hy)
      · rw [Std.ExtTreeSet.length_toList, count]
    exact perm.mem_iff.mpr (Std.ExtTreeSet.mem_toList.mpr hx)
  · intro all
    exact (NameSet.size_eq_length hc.settling.nodup fun x => ⟨hc.settling.subset x, all x⟩).symm

/-- If no name is ready, every unsettled name has an unsettled precedent. -/
theorem exists_pending (hc : Sound g names c) (rest : c.ready = ∅) {x : String} (hx : x ∈ names)
    (unsettled : x ∉ c.settled) : ∃ p, p ∈ g.pending names c.settled x := by
  by_contra none
  have free := Std.ExtTreeSet.eq_empty_iff_forall_not_mem.mpr fun p hp => none ⟨p, hp⟩
  exact Std.ExtTreeSet.not_mem_empty (rest ▸ (hc.mem_ready x).mpr ⟨hx, unsettled, free⟩)

end Sound

theorem run_idle {g : Graph} {c : Countdown} (h : c.ready = ∅) (n : Nat) : run g n c = c := by
  induction n with
  | zero => rfl
  | succ n ih => rw [run, Sound.step_idle h, ih]

/-- Every step settles a name, unless none is ready. -/
theorem run_progress (g : Graph) (n : Nat) (c : Countdown) :
    (run g n c).ready = ∅ ∨ (run g n c).settled.length = c.settled.length + n := by
  induction n generalizing c with
  | zero => exact .inr rfl
  | succ n ih =>
    by_cases idle : c.ready = ∅
    · rw [run_idle idle]
      exact .inl idle
    · obtain ⟨name, _, _, he⟩ := Sound.step_eq (g := g) idle
      rcases ih (c.step g) with h | h
      · exact .inl h
      · refine .inr ?_
        rw [run, h, he, foldl_release_settled, List.length_cons]
        omega

end Countdown
end Worksheet.Graph
