import Worksheet.Proofs.Sheet.Naming
import Worksheet.Proofs.Sheet.Persistence

/-! Well-formedness of stored cells: normal names, and contents in the form in which they are read. -/
namespace Worksheet
variable {c : Config} {raw : String} {contents : Contents} {s : Sheet}

namespace Config

/-- The contents that can be stored: finite numbers, nonempty text that is neither a number when trimmed
nor marked, and formulas over normal names. -/
def Storable (c : Config) : Contents → Prop
  | .number x => x.isFinite = true
  | .text s => s ≠ "" ∧ (∀ x, Number.ofText? (Text.trim s.toList) = some x → x.isFinite = false) ∧
      c.marker ∉ s.toList.head?
  | .formula f => (∀ name ∈ f.variableNames, c.IsNormal name) ∧
      ∀ x, .number x ∈ f.tokens → x.isFinite = true ∧ Binary64.isNegative x = false

theorem finiteNumber?_eq_none {cs : List Char} : finiteNumber? cs = none ↔
    ∀ x, Number.ofText? (Text.trim cs) = some x → x.isFinite = false := by
  rw [finiteNumber?, Option.filter_eq_none_iff]
  simp only [Bool.not_eq_true]

theorem storable_of_readEntry (h : c.readEntry raw = .ok contents) (filled : contents ≠ .empty) :
    c.Storable contents := by
  cases contents with
  | number x => exact (finiteNumber?_eq_some.mp (readEntry_eq_number.mp h)).2
  | text s =>
    obtain ⟨rfl, number, unmarked⟩ := readEntry_eq_text.mp h
    exact ⟨fun none => filled (congrArg Contents.text none), finiteNumber?_eq_none.mp number, unmarked⟩
  | formula f =>
    obtain ⟨body, -, read⟩ := readEntry_eq_formula.mp h
    exact ⟨isNormal_of_ofTextWith read, fun x hx => writable_of_ofTextWith read _ hx⟩

end Config

namespace Sheet

theorem mem_names {n : String} : n ∈ s.names ↔ s.cells.contains n = true := Cells.mem_names

theorem nodup_names (s : Sheet) : s.names.Nodup := by
  rw [← names_toPairs]
  exact s.pairwise_toPairs.imp fun lt => lt.ne

/-- For every sheet reached by commands, all stored cells are well-formed and have normal names. The list
of names contains each stored cell once, and each name in it addresses its own cell. -/
theorem run_storable (config : Config) (commands : List Command) :
    let s := (Sheet.empty config).run commands
    (∀ n ∈ s.names, config.IsNormal n ∧ config.Storable (s.cells.contents n)) ∧
      s.names.Nodup ∧ s.size = s.names.length ∧
      (∀ n, n ∈ s.names ↔ config.normalize n = n ∧ s.contents n ≠ .empty) ∧
      (∀ n, s.contents n ≠ .empty ↔ config.normalize n ∈ s.names) ∧
      ∀ n ∈ s.names, ∃ cell, s.cells.get? n = some cell ∧ s.contents n = cell.contents ∧
        s.value n = cell.value := by
  intro s
  have same : s.config = config := run_config config commands
  have entered : s.Entered := run_entered config commands
  have normal (n : String) (hn : n ∈ s.names) : config.IsNormal n :=
    same ▸ entered.isNormal (run_consistent config commands) (mem_names.mp hn)
  have filled (n : String) : s.contents n ≠ .empty ↔ config.normalize n ∈ s.names := by
    rw [contents, same, mem_names, entered.contains_iff]
  have size : s.size = s.names.length := Std.ExtTreeMap.length_keys.symm
  refine ⟨fun n hn => ⟨normal n hn, ?_⟩, s.nodup_names, size, fun n => ⟨fun hn => ?_, ?_⟩, filled,
    fun n hn => ?_⟩
  · obtain ⟨raw, read⟩ := entered.read n (mem_names.mp hn)
    exact Config.storable_of_readEntry (same ▸ read) (entered.filled n (mem_names.mp hn))
  · exact ⟨(normal n hn).2, (filled n).mpr ((normal n hn).2.symm ▸ hn)⟩
  · rintro ⟨fixed, ne⟩
    exact fixed ▸ (filled n).mp ne
  · obtain ⟨cell, get⟩ := Option.isSome_iff_exists.mp (mem_names.mp hn)
    refine ⟨cell, get, ?_, ?_⟩
    · rw [contents, same, (normal n hn).2, Cells.contents_of_get? get]
    · rw [value, same, (normal n hn).2, Cells.value, get]
      rfl

/-- A leading blank makes a marked text unmarked, and a number out of range is text. The emptied cell is
not listed. -/
theorem run_storable_text :
    let s := (Sheet.empty {}).run [.enter "ß1" " =1", .enter "b1" "1e400", .enter "c1" "7",
      .enter "a1" "=.5*b1", .enter "c1" ""]
    s.names = ["A1", "B1", "SS1"] ∧ s.cells.contents "SS1" = .text " =1" ∧ Config.Storable {} (.text " =1") ∧
      ∃ cell, s.cells.get? "SS1" = some cell ∧ s.contents "SS1" = cell.contents ∧
        s.value "SS1" = cell.value := by
  intro s
  have names : s.names = ["A1", "B1", "SS1"] := by decide +kernel
  have text : s.cells.contents "SS1" = .text " =1" := by decide +kernel
  have mem : "SS1" ∈ s.names := names ▸ by simp
  obtain ⟨stored, -, -, -, -, found⟩ := run_storable {} [.enter "ß1" " =1", .enter "b1" "1e400",
    .enter "c1" "7", .enter "a1" "=.5*b1", .enter "c1" ""]
  exact ⟨names, text, text ▸ (stored "SS1" mem).2, found "SS1" mem⟩

end Sheet
end Worksheet
