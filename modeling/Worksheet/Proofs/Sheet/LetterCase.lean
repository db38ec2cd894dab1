import Worksheet.Proofs.Formula.LetterCase
import Worksheet.Proofs.Sheet.Run

/-! Case independence of sheets with case folding. Runs that differ only in the case of names and of
formulas reach equal sheets. -/
namespace Worksheet
open Text

/-- The fault with quoted source text in lower case. -/
def Fault.lowered : Fault → Fault
  | invalidName given => invalidName given.toLower
  | formula (.malformed reason) => formula (.malformed reason.lowered)
  | fault => fault

namespace Config
variable {c : Config} {given given' raw raw' : String} {cs ds : List Char}

/-- The texts are equal, or both begin with the marker and differ only in case after it. -/
inductive SameEntry (c : Config) : String → String → Prop
  | same (raw : String) : SameEntry c raw raw
  | marked {raw raw' : String} {body body' : List Char} (h : raw.toList = c.marker :: body)
      (h' : raw'.toList = c.marker :: body') (letters : SameLetters body body') : SameEntry c raw raw'

/-- Commands that differ only in the case of names and of formulas. -/
inductive SameCommand (c : Config) : Command → Command → Prop
  | enter {given given' raw raw' : String} (name : SameLetters given.toList given'.toList)
      (entry : c.SameEntry raw raw') : SameCommand c (.enter given raw) (.enter given' raw')
  | save : SameCommand c .save .save
  | reload : SameCommand c .reload .reload

theorem SameEntry.letters (h : c.SameEntry raw raw') : SameLetters raw.toList raw'.toList := by
  cases h with
  | same => exact .refl _
  | marked h h' letters =>
    rw [h, h']
    exact letters.cons c.marker

theorem finiteNumber?_sameLetters (h : SameLetters cs ds) : finiteNumber? cs = finiteNumber? ds := by
  have lower (cs : List Char) : finiteNumber? (cs.map Char.toLower) = finiteNumber? cs := by
    rw [finiteNumber?, trim_map_toLower, Number.ofText?_map_toLower, finiteNumber?]
  rw [← lower cs, h, lower]

section
variable (fold : c.foldCase = true)
include fold

theorem normalize_eq_upper (name : String) : c.normalize name = upper name := if_pos fold

theorem normalize_toLower (name : String) : c.normalize name.toLower = c.normalize name := by
  rw [normalize_eq_upper fold, normalize_eq_upper fold, upper_toLower]

theorem normalize_sameLetters (h : SameLetters given.toList given'.toList) :
    c.normalize given = c.normalize given' := by
  rw [normalize_eq_upper fold, normalize_eq_upper fold, h.upper_eq]

theorem cellName_sameLetters (h : SameLetters given.toList given'.toList) :
    (c.cellName given).mapError Fault.lowered = (c.cellName given').mapError Fault.lowered := by
  have empty : given = "" ↔ given' = "" := by
    rw [← String.toList_eq_nil_iff, ← String.toList_eq_nil_iff, ← List.map_eq_nil_iff, h, List.map_eq_nil_iff]
  simp only [cellName, empty, normalize_sameLetters fold h]
  split
  · rfl
  · split
    · rfl
    · exact congrArg (fun name => Except.error (Fault.invalidName name)) h.toLower_eq

theorem readEntry_sameEntry (h : c.SameEntry raw raw') :
    (c.readEntry raw).mapError Fault.lowered = (c.readEntry raw').mapError Fault.lowered := by
  have number := finiteNumber?_sameLetters h.letters
  cases h with
  | same => rfl
  | marked whole whole' letters =>
    cases read : finiteNumber? raw.toList with
    | some x => rw [readEntry_eq_number.mpr read, readEntry_eq_number.mpr (number.symm.trans read)]
    | none =>
      rw [readEntry_of_isMarked ⟨read, whole⟩, readEntry_of_isMarked ⟨number.symm.trans read, whole'⟩]
      have formula := Formula.ofTextWith_sameLetters (normalize_toLower fold) c.admits letters
      rcases Outcome.eq_or_error_of_mapError_eq formula with same | ⟨e, f, he, hf, same⟩
      · rw [same]
      · rw [he, hf]
        exact congrArg (fun reason => Except.error (Fault.formula (.malformed reason))) same

end

end Config

namespace Sheet
variable {config : Config} {commands commands' : List Command} {s : Sheet} {given given' raw raw' : String}

/-- Such edits yield equal sheets, and equal faults up to the case of quoted text. -/
theorem enter_sameCommand (fold : s.config.foldCase = true)
    (h : s.config.SameCommand (.enter given raw) (.enter given' raw')) :
    (s.enter given' raw').sheet = (s.enter given raw).sheet ∧
      (s.enter given' raw').outcome.mapError Fault.lowered =
        (s.enter given raw).outcome.mapError Fault.lowered := by
  cases h with
  | enter name entry =>
    have names := Outcome.eq_or_error_of_mapError_eq (Config.cellName_sameLetters fold name)
    have entries := Outcome.eq_or_error_of_mapError_eq (Config.readEntry_sameEntry fold entry)
    rcases names with cell | ⟨e, f, he, hf, same⟩
    · rcases entries with contents | ⟨e, f, he, hf, same⟩
      · simp only [enter, cell, contents]
        cases s.config.cellName given' with
        | error _ | ok _ => exact ⟨rfl, rfl⟩
      · simp only [enter, cell, he, hf]
        cases s.config.cellName given' with
        | error fault => exact ⟨rfl, rfl⟩
        | ok name => exact ⟨rfl, congrArg Except.error same.symm⟩
    · rw [enter, enter, he, hf]
      exact ⟨rfl, congrArg Except.error same.symm⟩

theorem perform_sameCommand (fold : s.config.foldCase = true) {command command' : Command}
    (h : s.config.SameCommand command command') : s.perform command' = s.perform command := by
  cases h with
  | enter name entry => exact (enter_sameCommand fold (.enter name entry)).1
  | save | reload => rfl

theorem run_sameCommands (hs : s.Consistent) (fold : s.config.foldCase = true)
    (h : List.Forall₂ s.config.SameCommand commands commands') : s.run commands' = s.run commands := by
  generalize same : s.config = config at h fold
  induction h generalizing s with
  | nil => rfl
  | @cons command command' commands commands' first others ih =>
    subst same
    obtain ⟨consistent, same⟩ := hs.perform command
    calc s.run (command' :: commands')
      _ = (s.perform command').run commands' := rfl
      _ = (s.perform command).run commands' := by rw [perform_sameCommand fold first]
      _ = (s.perform command).run commands := ih consistent same

/-- With case folding, runs that differ only in the case of names and of formulas reach equal sheets. The
next edit yields equal sheets, and equal outcomes up to the case of quoted text. Contents, values and
dependents do not depend on the case of the given name. -/
theorem run_sameLetters (config : Config) (fold : config.foldCase = true)
    (alike : List.Forall₂ config.SameCommand commands commands') :
    let s := (Sheet.empty config).run commands
    let t := (Sheet.empty config).run commands'
    t = s ∧
      (∀ given raw given' raw', config.SameCommand (.enter given raw) (.enter given' raw') →
        (t.enter given' raw').sheet = (s.enter given raw).sheet ∧
          (t.enter given' raw').outcome.mapError Fault.lowered =
            (s.enter given raw).outcome.mapError Fault.lowered) ∧
      ∀ name name' : String, SameLetters name.toList name'.toList →
        t.contents name' = s.contents name ∧ t.value name' = s.value name ∧
          t.dependents name' = s.dependents name := by
  intro s t
  have same : t = s := run_sameCommands (Consistent.empty config) fold alike
  have read : s.config = config := run_config config commands
  rw [same, ← read]
  rw [← read] at fold
  refine ⟨rfl, fun given raw given' raw' next => enter_sameCommand fold next, fun name name' letters => ?_⟩
  rw [contents, value, dependents, ← Config.normalize_sameLetters fold letters]
  exact ⟨rfl, rfl, rfl⟩

/-- Lower-case names, formulas and exponent marks, before and after a reload. The literal out of range is
quoted as it was entered. -/
theorem run_sameLetters_exponent :
    let s := (Sheet.empty {}).run [.enter "ss1" "1e2", .enter "A1" "=SS1*2E1", .reload]
    let t := (Sheet.empty {}).run [.enter "sS1" "1e2", .enter "a1" "=Ss1*2e1", .reload]
    t = s ∧ s.value "a1" = .number 2000 ∧ t.value "A1" = s.value "a1" ∧
      (s.enter "B1" "=1E999").outcome = .error (.formula (.malformed (.outOfRange "1E999".toList))) ∧
      (t.enter "b1" "=1e999").outcome.mapError Fault.lowered =
        (s.enter "B1" "=1E999").outcome.mapError Fault.lowered := by
  intro s t
  have formula : Config.SameEntry {} "=SS1*2E1" "=Ss1*2e1" := by
    have text : "=SS1*2E1".toList = '=' :: "SS1*2E1".toList := by decide +kernel
    have text' : "=Ss1*2e1".toList = '=' :: "Ss1*2e1".toList := by decide +kernel
    exact .marked text text' (by decide +kernel)
  have large : Config.SameEntry {} "=1E999" "=1e999" := by
    have text : "=1E999".toList = '=' :: "1E999".toList := by decide +kernel
    have text' : "=1e999".toList = '=' :: "1e999".toList := by decide +kernel
    exact .marked text text' (by decide +kernel)
  have alike : List.Forall₂ (Config.SameCommand {})
      [.enter "ss1" "1e2", .enter "A1" "=SS1*2E1", .reload]
      [.enter "sS1" "1e2", .enter "a1" "=Ss1*2e1", .reload] :=
    .cons (.enter (by decide +kernel) (.same "1e2"))
      (.cons (.enter (by decide +kernel) formula) (.cons .reload .nil))
  obtain ⟨same, edits, answers⟩ := run_sameLetters {} rfl alike
  refine ⟨same, by decide +kernel, (answers "a1" "A1" (by decide +kernel)).2.1, by decide +kernel, ?_⟩
  exact (edits "B1" "=1E999" "b1" "=1e999" (.enter (by decide +kernel) large)).2

end Sheet
end Worksheet
