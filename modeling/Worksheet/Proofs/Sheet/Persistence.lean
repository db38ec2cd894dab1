import Worksheet.Proofs.Sheet.Loading
import Worksheet.Proofs.Sheet.Writing

/-! Saving and loading. The pairs of a sheet name each cell once and denote its contents, so loading them
yields the sheet. -/
namespace Worksheet.Sheet
variable {s : Sheet}

theorem names_toPairs (s : Sheet) : s.toPairs.map Prod.fst = s.names := by
  rw [toPairs, List.map_map, names, Cells.names, ← Std.ExtTreeMap.map_fst_toList_eq_keys]
  rfl

theorem pairwise_toPairs (s : Sheet) : (s.toPairs.map Prod.fst).Pairwise (· < ·) := by
  rw [names_toPairs]
  exact Std.ExtTreeMap.ordered_keys.imp compare_lt_iff_lt.mp

theorem Entered.mem_toPairs (h : s.Entered) {name raw : String} : (name, raw) ∈ s.toPairs ↔
    s.cells.contents name ≠ .empty ∧ raw = (s.cells.contents name).written s.config.marker := by
  rw [toPairs, List.mem_map, ← h.contains_iff]
  constructor
  · rintro ⟨⟨n, cell⟩, hc, he⟩
    cases he
    have get : s.cells.get? name = some cell := Std.ExtTreeMap.mem_toList_iff_getElem?_eq_some.mp hc
    rw [Cells.contents_of_get? get, Cells.contains, get]
    exact ⟨rfl, rfl⟩
  · rintro ⟨contains, rfl⟩
    obtain ⟨cell, get⟩ := Option.isSome_iff_exists.mp contains
    rw [Cells.contents_of_get? get]
    exact ⟨(name, cell), Std.ExtTreeMap.mem_toList_iff_getElem?_eq_some.mpr get, rfl⟩

theorem Entered.isNormal (h : s.Entered) (hs : s.Consistent) {name : String}
    (contains : s.cells.contains name = true) : s.config.IsNormal name := by
  obtain ⟨given, rfl⟩ := h.normalized name contains
  exact Config.isNormal_of_admits (hs.named _ contains)

theorem holds_toPairs (hs : s.Consistent) (h : s.Entered) (plain : ¬ BeginsNumber s.config.marker) :
    s.save.Holds s.toPairs := by
  refine ⟨hs.save, h.save, rfl, fun pair hp => ?_, fun n other => ?_⟩
  · obtain ⟨ne, written⟩ := h.mem_toPairs.mp hp
    have contains := (h.contains_iff pair.1).mpr ne
    have normal := h.isNormal hs contains
    obtain ⟨raw, read⟩ := h.read pair.1 contains
    change s.config.cellName pair.1 = .ok (s.config.normalize pair.1) ∧
      s.config.readEntry pair.2 = .ok (s.cells.contents (s.config.normalize pair.1))
    rw [normal.2, written]
    exact ⟨normal.cellName_eq, Config.readEntry_written plain read⟩
  · by_contra ne
    have contains := (h.contains_iff n).mpr ne
    exact other _ (h.mem_toPairs.mpr ⟨ne, rfl⟩) (h.isNormal hs contains).2

theorem nodup_toPairs (hs : s.Consistent) (h : s.Entered) :
    (s.toPairs.map fun pair => s.config.normalize pair.1).Nodup := by
  have same : s.toPairs.map (fun pair => s.config.normalize pair.1) = s.toPairs.map Prod.fst := by
    refine List.map_congr_left fun pair hp => (h.isNormal hs ?_).2
    exact (h.contains_iff pair.1).mpr (h.mem_toPairs.mp hp).1
  rw [same]
  exact s.pairwise_toPairs.imp fun lt => lt.ne

/-- For every sheet reached by commands and a marker that begins no number: the pairs are strictly
ordered by name, they are exactly the stored cells with their written contents, and loading them yields
the saved sheet. -/
theorem run_reloads (config : Config) (commands : List Command) (plain : ¬ BeginsNumber config.marker) :
    let s := (Sheet.empty config).run commands
    (s.toPairs.map Prod.fst).Pairwise (· < ·) ∧
      (∀ name raw, (name, raw) ∈ s.toPairs ↔
        s.cells.contents name ≠ .empty ∧ raw = (s.cells.contents name).written config.marker) ∧
      (ofPairs config s.toPairs).1 = .ok { s with changed := false } := by
  intro s
  have same : s.config = config := run_config config commands
  have consistent : s.Consistent := run_consistent config commands
  have entered : s.Entered := run_entered config commands
  rw [← same] at plain
  refine ⟨s.pairwise_toPairs, fun name raw => ?_, ?_⟩
  · rw [entered.mem_toPairs, same]
  · rw [← same, ofPairs_eq_ok_iff_holds (nodup_toPairs consistent entered)]
    exact ⟨rfl, holds_toPairs consistent entered plain⟩

/-- The formula is written with normalized names and without blanks; text is written as it was
entered. -/
theorem run_reloads_written :
    let s := (Sheet.empty {}).run [.enter "b1" "= a1 *(.5e1 - a1)", .enter "c1" " =b1", .enter "a1" " 2.50 "]
    s.toPairs = [("A1", "2.5"), ("B1", "=A1*(5-A1)"), ("C1", " =b1")] ∧
      (ofPairs {} s.toPairs).1 = .ok { s with changed := false } := by
  intro s
  exact ⟨by decide +kernel, (run_reloads {} _ (by decide)).2.2⟩

end Worksheet.Sheet
