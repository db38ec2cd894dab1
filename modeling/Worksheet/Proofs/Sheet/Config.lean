import Worksheet.Sheet.Config
import Worksheet.Proofs.Formula.Lookup

/-! Parsing of names and of entered text: the conditions of refusal, and the properties of accepted
contents. -/
namespace Worksheet.Config
variable {c : Config}

theorem ne_empty_of_admits {name : String} (h : c.admits name = true) : name ≠ "" := by
  rintro rfl
  cases h

theorem cellName_eq_ok {given cell : String} :
    c.cellName given = .ok cell ↔
      given ≠ "" ∧ c.admits (c.normalize given) = true ∧ cell = c.normalize given := by
  rw [cellName]
  by_cases empty : given = ""
  · rw [if_pos empty]
    exact ⟨nofun, fun h => absurd empty h.1⟩
  · rw [if_neg empty]
    cases c.admits (c.normalize given) with
    | true => exact ⟨fun h => ⟨empty, rfl, (Except.ok.inj h).symm⟩, fun h => congrArg Except.ok h.2.2.symm⟩
    | false => exact ⟨nofun, nofun⟩

theorem cellName_eq_error {given : String} {fault : Fault} :
    c.cellName given = .error fault ↔ given = "" ∧ fault = .emptyCellName ∨
      given ≠ "" ∧ c.admits (c.normalize given) = false ∧ fault = .invalidName given := by
  rw [cellName]
  by_cases empty : given = ""
  · rw [if_pos empty]
    constructor
    · exact fun h => .inl ⟨empty, (Except.error.inj h).symm⟩
    · rintro (⟨_, rfl⟩ | ⟨h, _⟩)
      · rfl
      · exact absurd empty h
  · rw [if_neg empty]
    cases c.admits (c.normalize given) with
    | true => simp [empty]
    | false => simp [empty, eq_comm]

/-- The text is that of a formula: it is not a finite number and begins with the marker. -/
def IsMarked (c : Config) (raw : String) (body : List Char) : Prop :=
  finiteNumber? raw.toList = none ∧ raw.toList = c.marker :: body

theorem readEntry_of_isMarked {raw : String} {body : List Char} (h : c.IsMarked raw body) :
    c.readEntry raw = match Formula.ofTextWith c.normalize c.admits body with
      | .ok f => .ok (.formula f)
      | .error reason => .error (.formula (.malformed reason)) := by
  rw [readEntry, h.1, h.2]
  exact if_pos rfl

theorem readEntry_cases (c : Config) (raw : String) :
    (∃ body, c.IsMarked raw body) ∨ ∃ contents, c.readEntry raw = .ok contents ∧ contents.formula? = none := by
  unfold IsMarked readEntry
  cases finiteNumber? raw.toList with
  | some x => exact .inr ⟨_, rfl, rfl⟩
  | none =>
    cases raw.toList with
    | nil => exact .inr ⟨_, rfl, rfl⟩
    | cons first body =>
      by_cases marked : first = c.marker
      · exact .inl ⟨body, rfl, by rw [marked]⟩
      · exact .inr ⟨.text raw, if_neg marked, rfl⟩

theorem readEntry_eq_error {raw : String} {fault : Fault} :
    c.readEntry raw = .error fault ↔ ∃ body reason, c.IsMarked raw body ∧
      Formula.ofTextWith c.normalize c.admits body = .error reason ∧ fault = .formula (.malformed reason) := by
  constructor
  · intro h
    rcases c.readEntry_cases raw with ⟨body, marked⟩ | ⟨contents, he, _⟩
    · rw [readEntry_of_isMarked marked] at h
      cases hf : Formula.ofTextWith c.normalize c.admits body with
      | ok f =>
        rw [hf] at h
        cases h
      | error reason =>
        rw [hf] at h
        exact ⟨body, reason, marked, hf, (Except.error.inj h).symm⟩
    · cases he.symm.trans h
  · rintro ⟨body, reason, marked, hf, rfl⟩
    rw [readEntry_of_isMarked marked, hf]

theorem readEntry_eq_formula {raw : String} {f : Formula} :
    c.readEntry raw = .ok (.formula f) ↔
      ∃ body, c.IsMarked raw body ∧ Formula.ofTextWith c.normalize c.admits body = .ok f := by
  constructor
  · intro h
    rcases c.readEntry_cases raw with ⟨body, marked⟩ | ⟨contents, he, plain⟩
    · rw [readEntry_of_isMarked marked] at h
      cases hf : Formula.ofTextWith c.normalize c.admits body with
      | ok g =>
        rw [hf] at h
        cases h
        exact ⟨body, marked, hf⟩
      | error reason =>
        rw [hf] at h
        cases h
    · cases he.symm.trans h
      cases plain
  · rintro ⟨body, marked, hf⟩
    rw [readEntry_of_isMarked marked, hf]

theorem finiteNumber?_eq_some {raw : List Char} {x : Float} :
    finiteNumber? raw = some x ↔ Number.ofText? (Text.trim raw) = some x ∧ x.isFinite = true :=
  Option.filter_eq_some_iff

theorem readEntry_eq_number {raw : String} {x : Float} :
    c.readEntry raw = .ok (.number x) ↔ finiteNumber? raw.toList = some x := by
  constructor
  · intro h
    rw [readEntry] at h
    split at h
    · next read =>
      cases h
      exact read
    · cases h
    · split at h
      · split at h <;> cases h
      · cases h
  · intro read
    rw [readEntry, read]

/-- Entered text is stored as text exactly if it is neither a finite number nor marked. -/
theorem readEntry_eq_text {raw s : String} : c.readEntry raw = .ok (.text s) ↔
    s = raw ∧ finiteNumber? raw.toList = none ∧ c.marker ∉ raw.toList.head? := by
  constructor
  · intro h
    rw [readEntry] at h
    split at h
    · cases h
    · next number empty =>
      cases h
      exact ⟨rfl, number, by simp [empty]⟩
    · next first body number whole =>
      split at h
      · split at h <;> cases h
      · next plain =>
        cases h
        exact ⟨rfl, number, by simpa [whole] using plain⟩
  · rintro ⟨rfl, number, plain⟩
    rw [readEntry, number]
    cases whole : s.toList with
    | nil => rfl
    | cons first body =>
      rw [whole, List.head?_cons, Option.mem_some_iff] at plain
      exact if_neg plain

/-- The references of entered contents are admitted names. -/
theorem readEntry_admits {raw : String} {contents : Contents} (h : c.readEntry raw = .ok contents) :
    ∀ p ∈ contents.precedents, c.admits p = true := by
  cases contents with
  | formula f =>
    obtain ⟨_, _, hf⟩ := readEntry_eq_formula.mp h
    exact Formula.ofTextWith_accepts hf
  | number _ | text _ => exact fun p hp => absurd hp Std.ExtTreeSet.not_mem_empty

end Worksheet.Config
