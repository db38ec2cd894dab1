import Worksheet.Proofs.Sheet.Entries

/-! Loading a list of pairs. The loaded sheet is determined by its contents, so it does not depend on the
order of the pairs. -/
namespace Worksheet.Sheet
open Relation
variable {s t : Sheet} {pairs : List (String × String)}

theorem Consistent.hasEdge_iff (hs : s.Consistent) {p n : String} :
    s.graph.HasEdge p n ↔ p ∈ (s.cells.contents n).precedents :=
  hs.graph.hasEdge_iff.trans Cells.mem_references

/-- All pairs are accepted, and `t` holds the contents that they denote. -/
def Accepts (t : Sheet) (pairs : List (String × String)) : Prop :=
  ∀ pair ∈ pairs, t.config.cellName pair.1 = .ok (t.config.normalize pair.1) ∧
    t.config.readEntry pair.2 = .ok (t.cells.contents (t.config.normalize pair.1))

/-- The sheet `t` is saved, holds the contents denoted by the pairs, and holds nothing else. -/
structure Holds (t : Sheet) (pairs : List (String × String)) : Prop where
  consistent : t.Consistent
  entered : t.Entered
  saved : t.changed = false
  accepts : t.Accepts pairs
  rest : ∀ n, (∀ pair ∈ pairs, t.config.normalize pair.1 ≠ n) → t.cells.contents n = .empty

theorem Holds.of_perm {pairs' : List (String × String)} (h : t.Holds pairs) (perm : pairs.Perm pairs') :
    t.Holds pairs' :=
  ⟨h.consistent, h.entered, h.saved, fun pair hp => h.accepts pair (perm.mem_iff.mpr hp),
    fun n other => h.rest n fun pair hp => other pair (perm.mem_iff.mp hp)⟩

theorem Holds.unique (hs : s.Holds pairs) (ht : t.Holds pairs) (config : s.config = t.config) : s = t := by
  refine hs.consistent.ext ht.consistent hs.entered ht.entered config (hs.saved.trans ht.saved.symm) ?_
  funext n
  by_cases listed : ∃ pair ∈ pairs, t.config.normalize pair.1 = n
  · obtain ⟨pair, hp, rfl⟩ := listed
    have read := (hs.accepts pair hp).2
    rw [config, (ht.accepts pair hp).2] at read
    exact (Except.ok.inj read).symm
  · have other : ∀ pair ∈ pairs, t.config.normalize pair.1 ≠ n := fun pair hp he => listed ⟨pair, hp, he⟩
    rw [ht.rest n other, hs.rest n (config ▸ other)]

/-- Entering pairs with distinct names stores all of them and changes no other cell. -/
theorem accepts_of_enterAll (hs : s.Consistent)
    (distinct : (pairs.map fun pair => s.config.normalize pair.1).Nodup)
    (h : (s.enterAll pairs).1 = .ok t) :
    t.Accepts pairs ∧
      ∀ n, (∀ pair ∈ pairs, s.config.normalize pair.1 ≠ n) → t.cells.contents n = s.cells.contents n := by
  induction pairs generalizing s with
  | nil =>
    cases h
    exact ⟨nofun, fun _ _ => rfl⟩
  | cons pair pairs ih =>
    obtain ⟨fresh, distinct⟩ := List.nodup_cons.mp distinct
    have config := (hs.enterAll h).2
    have consistent := hs.enter pair.1 pair.2
    rw [enterAll] at h
    rcases hs.enter_cases pair.1 pair.2 with ⟨_, _, he⟩ | ⟨contents, u, order, free, _, hr, he, updated⟩
    · simp only [he] at h
      cases h
    · simp only [he] at h consistent
      obtain ⟨_, hc, _⟩ := exists_contents_of_not_refuses free
      rw [← updated.config] at distinct
      obtain ⟨accepts, kept⟩ := ih consistent distinct h
      rw [updated.config] at kept
      have fresh (other : String × String) (ho : other ∈ pairs) :
          s.config.normalize other.1 ≠ s.config.normalize pair.1 :=
        fun same => fresh (List.mem_map.mpr ⟨other, ho, same⟩)
      refine ⟨fun other ho => ?_, fun n other => ?_⟩
      · rcases List.mem_cons.mp ho with rfl | ho
        · rw [config, kept _ fresh, updated.contents, if_pos rfl]
          exact ⟨hc, hr⟩
        · exact accepts other ho
      · rw [kept n fun other' ho => other other' (List.mem_cons_of_mem pair ho), updated.contents,
          if_neg (other pair List.mem_cons_self).symm]

/-- Reachability is monotone in the set of stored formulas. -/
theorem Consistent.leads_mono (hs : s.Consistent) (ht : t.Consistent)
    (below : ∀ n, s.cells.contents n = .empty ∨ s.cells.contents n = t.cells.contents n) {x y : String}
    (lead : s.graph.Leads x y) : t.graph.Leads x y := by
  refine lead.lift id fun p n edge => ?_
  change t.graph.HasEdge p n
  rw [hs.hasEdge_iff] at edge
  rw [ht.hasEdge_iff]
  rcases below n with empty | same
  · rw [empty] at edge
    exact absurd edge Std.ExtTreeSet.not_mem_empty
  · rwa [← same]

/-- If a consistent sheet holds a pair, then the pair is not refused by any sheet with a part of its
contents. A cycle in the smaller sheet would be a cycle in the larger one. -/
theorem Accepts.not_refuses (ht : t.Consistent) (hs : s.Consistent) (config : s.config = t.config)
    (below : ∀ n, s.cells.contents n = .empty ∨ s.cells.contents n = t.cells.contents n)
    {pair : String × String} (accepts : t.Accepts [pair]) (fault : Fault) :
    ¬ s.Refuses pair.1 pair.2 fault := by
  obtain ⟨hc, hr⟩ := accepts pair List.mem_cons_self
  rw [← config] at hc hr
  obtain ⟨named, valid, -⟩ := Config.cellName_eq_ok.mp hc
  intro refused
  cases refused with
  | noName h => exact named h
  | invalidName _ invalid => cases valid.symm.trans invalid
  | malformed _ _ marked unread =>
    cases hr.symm.trans (Config.readEntry_eq_error.mpr ⟨_, _, marked, unread, rfl⟩)
  | @circular _ f p _ _ marked read mem lead =>
    have formula := Except.ok.inj (hr.symm.trans (Config.readEntry_eq_formula.mpr ⟨_, marked, read⟩))
    have edge : t.graph.HasEdge p (s.config.normalize pair.1) := by
      rw [ht.hasEdge_iff, formula]
      exact mem
    exact ht.wellFounded.transGen.irrefl.irrefl _ (TransGen.tail' (hs.leads_mono ht below lead) edge)

theorem exists_enterAll (ht : t.Consistent) (hs : s.Consistent) (config : s.config = t.config)
    (below : ∀ n, s.cells.contents n = .empty ∨ s.cells.contents n = t.cells.contents n)
    (accepts : t.Accepts pairs) : ∃ u, (s.enterAll pairs).1 = .ok u := by
  induction pairs generalizing s with
  | nil => exact ⟨s, rfl⟩
  | cons pair pairs ih =>
    have consistent := hs.enter pair.1 pair.2
    have first : t.Accepts [pair] := fun other ho =>
      accepts other (List.mem_singleton.mp ho ▸ List.mem_cons_self)
    rcases hs.enter_cases pair.1 pair.2 with ⟨fault, refused, _⟩ | ⟨contents, u, order, _, _, hr, he, updated⟩
    · exact absurd refused (first.not_refuses ht hs config below fault)
    · simp only [enterAll, he] at consistent ⊢
      refine ih consistent (updated.config.trans config) (fun n => ?_) fun other ho =>
        accepts other (List.mem_cons_of_mem pair ho)
      rw [updated.contents]
      split
      · next target =>
        rw [config, (accepts pair List.mem_cons_self).2] at hr
        rw [target, config]
        exact .inr (Except.ok.inj hr).symm
      · exact below n

/-- Loading pairs with distinct names succeeds exactly if some sheet holds them, and its result is this
sheet. -/
theorem ofPairs_eq_ok_iff_holds {config : Config}
    (distinct : (pairs.map fun pair => config.normalize pair.1).Nodup) :
    (ofPairs config pairs).1 = .ok t ↔ t.config = config ∧ t.Holds pairs := by
  have empty := Consistent.empty config
  have holds {t : Sheet} (h : (ofPairs config pairs).1 = .ok t) : t.config = config ∧ t.Holds pairs := by
    obtain ⟨loaded, hl, rfl⟩ := ofPairs_eq_ok.mp h
    obtain ⟨consistent, same⟩ := empty.enterAll hl
    obtain ⟨accepts, kept⟩ := accepts_of_enterAll empty distinct hl
    have entered := (Entered.empty config).enterAll empty hl
    refine ⟨same, consistent.save, entered.save, rfl, accepts, fun n other => ?_⟩
    have elsewhere (pair : String × String) (hp : pair ∈ pairs) : config.normalize pair.1 ≠ n := by
      rw [show config = loaded.config from same.symm]
      exact other pair hp
    exact (kept n elsewhere).trans (contents_empty config n)
  constructor
  · exact holds
  · rintro ⟨rfl, ht⟩
    obtain ⟨u, hu⟩ := exists_enterAll ht.consistent empty rfl (fun n => .inl (contents_empty _ n)) ht.accepts
    have loaded := ofPairs_eq_ok.mpr ⟨u, hu, rfl⟩
    obtain ⟨config, hh⟩ := holds loaded
    rwa [hh.unique ht config] at loaded

/-- For pairs with distinct normalized names, loading any permutation succeeds equally and yields the
same sheet. -/
theorem ofPairs_perm (config : Config) {pairs pairs' : List (String × String)} (perm : pairs.Perm pairs')
    (distinct : (pairs.map fun pair => config.normalize pair.1).Nodup) (t : Sheet) :
    (ofPairs config pairs).1 = .ok t ↔ (ofPairs config pairs').1 = .ok t := by
  have distinct' : (pairs'.map fun pair => config.normalize pair.1).Nodup :=
    (perm.map _).nodup_iff.mp distinct
  rw [ofPairs_eq_ok_iff_holds distinct, ofPairs_eq_ok_iff_holds distinct']
  exact and_congr_right' ⟨fun h => h.of_perm perm, fun h => h.of_perm perm.symm⟩

/-- Both orders yield the same sheet; in the second order, references precede the cells that they
name. -/
theorem ofPairs_either_way :
    let pairs := [("A1", "2"), ("b1", "=a1+1"), ("C1", "=B1/A1-D1"), ("D1", "")]
    (pairs.map fun pair => Config.normalize {} pair.1).Nodup ∧
      ∃ t, (ofPairs {} pairs).1 = .ok t ∧ (ofPairs {} pairs.reverse).1 = .ok t := by
  intro pairs
  have distinct : (pairs.map fun pair => Config.normalize {} pair.1).Nodup := by decide +kernel
  have loads : (ofPairs {} pairs).1.isOk = true := by decide +kernel
  refine ⟨distinct, ?_⟩
  cases loaded : (ofPairs {} pairs).1 with
  | error fault =>
    rw [loaded] at loads
    cases loads
  | ok t => exact ⟨t, rfl, (ofPairs_perm {} pairs.reverse_perm.symm distinct t).mp loaded⟩

end Worksheet.Sheet
