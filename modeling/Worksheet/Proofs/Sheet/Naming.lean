import Worksheet.Proofs.Sheet.Rereading
import Worksheet.Proofs.Sheet.Run

/-! The names of editable cells and the variables of formulas are the same set: the admitted names that
normalization leaves unchanged. -/
namespace Worksheet
variable {c : Config} {given m : String} {f : Formula}

namespace Config

theorem isNormal_of_cellName (h : c.cellName given = .ok m) : c.IsNormal m := by
  obtain ⟨-, admitted, rfl⟩ := cellName_eq_ok.mp h
  exact isNormal_of_admits admitted

theorem IsNormal.ofTextWith_text (h : c.IsNormal m) (f : Formula) (only : ∀ name, .var name ∈ f.tokens → name = m)
    (plain : ∀ x, .number x ∉ f.tokens) : Formula.ofTextWith c.normalize c.admits f.text = .ok f := by
  refine Formula.ofTextWith_text_of_writable (fun t ht => ?_) fun name hn => ?_
  · cases t with
    | number x => exact absurd ht (plain x)
    | var name =>
      obtain rfl := only name ht
      exact isWord_of_admits h.1
    | operator _ | left | right => trivial
  · obtain rfl := only name (Formula.mem_variableNames.mp hn)
    exact h.symm

theorem IsNormal.ofTextWith_eq (h : c.IsNormal m) :
    Formula.ofTextWith c.normalize c.admits m.toList = .ok ⟨[.var m], rfl⟩ := by
  let f : Formula := ⟨[.var m], rfl⟩
  have text : f.text = m.toList := List.flatMap_singleton _ _
  rw [← text]
  exact h.ofTextWith_text f (by simp [f]) (by simp [f])

/-- For every marker some text enters a formula with the given variable. The parentheses prevent the text
from being a number. -/
theorem IsNormal.exists_readEntry_eq (h : c.IsNormal m) :
    ∃ raw f, c.readEntry raw = .ok (.formula f) ∧ m ∈ f.variableNames := by
  let f : Formula := ⟨[.left, .var m, .right], rfl⟩
  have read := h.ofTextWith_text f (by simp [f]) (by simp [f])
  have number : finiteNumber? (c.marker :: f.text) = none := by
    rw [Option.eq_none_iff_forall_not_mem]
    intro x number
    obtain ⟨t, single⟩ := exists_eq_singleton read number
    cases single
  have mem : m ∈ f.variableNames := Formula.mem_variableNames.mpr (by simp [f])
  refine ⟨String.ofList (c.marker :: f.text), f, readEntry_eq_formula.mpr ⟨f.text, ⟨?_, ?_⟩, read⟩, mem⟩
  · rw [String.toList_ofList]
    exact number
  · exact String.toList_ofList

theorem isNormal_of_readEntry {raw : String} (h : c.readEntry raw = .ok (.formula f)) :
    ∀ name ∈ f.variableNames, c.IsNormal name := by
  obtain ⟨body, -, read⟩ := readEntry_eq_formula.mp h
  exact isNormal_of_ofTextWith read

end Config

namespace Sheet
variable {s : Sheet}

/-- Every normal name can be edited in every consistent sheet, since empty contents close no cycle. -/
theorem Consistent.exists_outcome_eq_ok (hs : s.Consistent) (h : s.config.IsNormal m) :
    ∃ names, (s.enter m "").outcome = .ok names := by
  rcases hs.enter_cases m "" with ⟨fault, refused, -⟩ | ⟨_, _, _, _, _, _, he, _⟩
  · cases refused with
    | noName empty => exact absurd empty (Config.ne_empty_of_admits h.1)
    | invalidName _ invalid =>
      rw [h.2] at invalid
      cases invalid.symm.trans h.1
    | malformed _ _ marked _ | circular _ _ marked _ _ _ => cases marked.2
  · exact ⟨_, congrArg Edit.outcome he⟩

/-- For every sheet reached by commands, the target names of accepted edits are exactly the names to
which entered formulas can refer. Each such name parses to the formula that consists of its own variable,
and every variable is its own cell name. -/
theorem run_names_agree (config : Config) (commands : List Command) :
    let s := (Sheet.empty config).run commands
    (∀ m, (∃ given raw names, config.normalize given = m ∧ (s.enter given raw).outcome = .ok names) ↔
      ∃ raw f, config.readEntry raw = .ok (.formula f) ∧ m ∈ f.variableNames) ∧
    (∀ given m, config.cellName given = .ok m →
      ∃ f, Formula.ofTextWith config.normalize config.admits m.toList = .ok f ∧ f.tokens = [.var m]) ∧
    ∀ body f, Formula.ofTextWith config.normalize config.admits body = .ok f →
      ∀ m ∈ f.variableNames, config.cellName m = .ok m := by
  intro s
  have same : s.config = config := run_config config commands
  have hs : s.Consistent := run_consistent config commands
  refine ⟨fun m => ⟨?_, ?_⟩, fun given m named => ?_, fun body f read m hm => ?_⟩
  · rintro ⟨given, raw, names, rfl, accepted⟩
    rcases hs.enter_cases given raw with ⟨_, _, refused⟩ | ⟨_, _, _, _, admitted, _, _, _⟩
    · rw [refused] at accepted
      cases accepted
    · rw [same] at admitted
      exact (Config.isNormal_of_admits admitted).exists_readEntry_eq
  · rintro ⟨raw, f, read, hm⟩
    have normal := Config.isNormal_of_readEntry read m hm
    obtain ⟨names, accepted⟩ := hs.exists_outcome_eq_ok (same.symm ▸ normal)
    exact ⟨m, "", names, normal.2, accepted⟩
  · exact ⟨_, (Config.isNormal_of_cellName named).ofTextWith_eq, rfl⟩
  · exact (Config.isNormal_of_ofTextWith read m hm).cellName_eq

/-- The first letter has a two-letter upper-case form, and the variable has the form of an exponent. -/
theorem run_names_agree_exponent :
    let f : Formula := ⟨[.number 2, .operator .multiply, .left, .var "E5", .operator .subtract, .var "SS7",
      .right], rfl⟩
    let read := Formula.ofTextWith (Config.normalize {}) (Config.admits {})
    Config.cellName {} "ß7" = .ok "SS7" ∧ (∃ g, read "SS7".toList = .ok g ∧ g.tokens = [.var "SS7"]) ∧
      read "2*(e5-sS7)".toList = .ok f ∧ "E5" ∈ f.variableNames ∧ Config.cellName {} "E5" = .ok "E5" := by
  intro f read
  have named : Config.cellName {} "ß7" = .ok "SS7" := by decide +kernel
  have formula : read "2*(e5-sS7)".toList = .ok f := by decide +kernel
  have mem : "E5" ∈ f.variableNames := Formula.mem_variableNames.mpr (by simp [f])
  obtain ⟨-, cells, references⟩ := run_names_agree {} []
  exact ⟨named, cells "ß7" "SS7" named, formula, mem, references _ f formula "E5" mem⟩

end Sheet
end Worksheet
