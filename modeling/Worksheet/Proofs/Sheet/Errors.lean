import Worksheet.Proofs.Formula.Asking
import Worksheet.Proofs.Number
import Worksheet.Proofs.Sheet.Agreement
import Worksheet.Proofs.Sheet.Recomputation

/-! Propagation and origin of error values. Errors propagate to all dependent formulas, and every error
originates in a division or in a reference to a cell without a number or an error. -/
namespace Worksheet
open Relation

theorem Value.eq_text_of_display {v : Value} (h : v.display = "#VALUE!")
    (sound : ∀ reason, v ≠ .error (.malformed reason)) : v = .text "#VALUE!" := by
  cases v with
  | number x =>
    obtain ⟨c, last, alphanum⟩ := Number.exists_getLast?_text_isAlphanum x
    rw [display, String.ofList_eq] at h
    rw [h] at last
    cases last
    cases alphanum
  | text s => exact congrArg Value.text h
  | error e =>
    cases e with
    | malformed reason => exact absurd rfl (sound reason)
    | undefinedVariable name => exact absurd h (show "#REF!" ≠ "#VALUE!" by decide)
    | divisionByZero => exact absurd h (by decide)

namespace Cells

/-- The error of `n` is not caused by another error: it is a division by zero or refers to a cell with
text or without contents. -/
def IsFaulty (s : Cells) (n : String) : Prop :=
  s.value n = .error .divisionByZero ∨
    ∃ p text, s.value n = .error (.undefinedVariable p) ∧ s.RefersTo n p ∧ s.value p = .text text

end Cells

namespace Sheet.Consistent
variable {s : Sheet} {n p : String} {e : FormulaFault}

theorem value_eq_error (hs : s.Consistent) (h : s.cells.value n = .error e) :
    ∃ f, s.cells.contents n = .formula f ∧
      ((∃ v ∈ f.variableNames, s.cells.number? v = none ∧ e = .undefinedVariable v) ∨
        .operator .divide ∈ f.tokens ∧ e = .divisionByZero) := by
  rw [hs.settled] at h
  cases hc : s.cells.contents n with
  | number x =>
    rw [hc] at h
    cases h
  | text t =>
    rw [hc] at h
    cases h
  | formula f =>
    refine ⟨f, rfl, ?_⟩
    rw [hc, Contents.evaluate] at h
    split at h
    · cases h
    · next he =>
      cases h
      exact Formula.evaluate_eq_error he

theorem exists_error_of_refersTo (hs : s.Consistent) (refers : s.cells.RefersTo n p)
    (h : s.cells.number? p = none) : ∃ e, s.cells.value n = .error e := by
  obtain ⟨cell, f, hc, hf, mem⟩ := refers
  rw [hs.settled, Cells.contents_of_get? hc, hf, Contents.evaluate]
  split
  · next x value =>
    obtain ⟨y, found⟩ := Formula.exists_lookup_eq_some value mem
    cases h.symm.trans found
  · next e _ => exact ⟨e, rfl⟩

theorem exists_error_of_transGen (hs : s.Consistent) (refers : TransGen s.cells.RefersTo n p)
    (h : s.cells.number? p = none) : ∃ e, s.cells.value n = .error e := by
  induction refers using TransGen.head_induction_on with
  | single refers => exact hs.exists_error_of_refersTo refers h
  | head refers _ ih =>
    obtain ⟨e, he⟩ := ih
    refine hs.exists_error_of_refersTo refers ?_
    rw [Cells.number?, he]
    rfl

/-- Every error has an origin among the cells on which it depends, or is its own origin. The proof is by
well-founded induction on references. -/
theorem exists_isFaulty (hs : s.Consistent) (h : s.cells.value n = .error e) :
    ∃ m, ReflTransGen s.cells.RefersTo n m ∧ s.cells.IsFaulty m := by
  induction n using hs.wellFounded_refers.induction generalizing e with
  | _ n ih =>
    obtain ⟨f, hf, ⟨v, mem, missing, rfl⟩ | ⟨_, rfl⟩⟩ := hs.value_eq_error h
    · have precedent : v ∈ (s.cells.contents n).precedents := Contents.mem_precedents.mpr ⟨f, hf, mem⟩
      have refers := Cells.refersTo_iff.mpr precedent
      cases hv : s.cells.value v with
      | number x =>
        rw [Cells.number?, hv] at missing
        cases missing
      | text t => exact ⟨n, .refl, .inr ⟨v, t, h, refers, hv⟩⟩
      | error e =>
        obtain ⟨m, lead, faulty⟩ := ih v precedent hv
        exact ⟨m, .head refers lead, faulty⟩
    · exact ⟨n, .refl, .inl h⟩

end Sheet.Consistent

/-- For every sheet reached by commands: what depends, directly or not, on a name without a number has an
error. An undefined variable is a reference to a name without a number, and a division by zero is the
error of a formula with a division. Every error belongs to a formula and has an origin. No value is a
malformed expression, so `#VALUE!` is displayed only for that text itself. -/
theorem Sheet.run_errors (config : Config) (commands : List Command) :
    let s := (Sheet.empty config).run commands
    (∀ n p, TransGen s.cells.RefersTo n p → s.cells.number? p = none → ∃ e, s.cells.value n = .error e) ∧
    (∀ n v, s.cells.value n = .error (.undefinedVariable v) →
      s.cells.RefersTo n v ∧ s.cells.number? v = none) ∧
    (∀ n, s.cells.value n = .error .divisionByZero →
      ∃ f, s.cells.contents n = .formula f ∧ .operator .divide ∈ f.tokens) ∧
    (∀ n e, s.cells.value n = .error e →
      (∃ f, s.cells.contents n = .formula f) ∧
        ∃ m, ReflTransGen s.cells.RefersTo n m ∧ s.cells.IsFaulty m) ∧
    (∀ n reason, s.cells.value n ≠ .error (.malformed reason)) ∧
    ∀ n, (s.cells.value n).display = "#VALUE!" → s.cells.value n = .text "#VALUE!" := by
  intro s
  have hs : s.Consistent := run_consistent config commands
  have sound (n : String) (reason : Malformed) : s.cells.value n ≠ .error (.malformed reason) := by
    intro h
    obtain ⟨_, _, ⟨_, _, _, other⟩ | ⟨_, other⟩⟩ := hs.value_eq_error h <;> cases other
  refine ⟨fun n p => hs.exists_error_of_transGen, ?_, ?_, ?_, sound, ?_⟩
  · intro n v h
    obtain ⟨f, hf, ⟨_, mem, missing, ⟨⟩⟩ | ⟨_, ⟨⟩⟩⟩ := hs.value_eq_error h
    exact ⟨Cells.refersTo_iff.mpr (Contents.mem_precedents.mpr ⟨f, hf, mem⟩), missing⟩
  · intro n h
    obtain ⟨f, hf, ⟨_, _, _, ⟨⟩⟩ | ⟨divides, _⟩⟩ := hs.value_eq_error h
    exact ⟨f, hf, divides⟩
  · intro n e h
    obtain ⟨f, hf, _⟩ := hs.value_eq_error h
    exact ⟨⟨f, hf⟩, hs.exists_isFaulty h⟩
  · exact fun n shown => Value.eq_text_of_display shown (sound n)

/-- The text in `D1` causes the error of `C1`, which causes the error of `A1` before its division is
evaluated. -/
theorem Sheet.run_errors_chain :
    let s := (Sheet.empty {}).run [.enter "B1" "0", .enter "A1" "=1/(B1-C1)", .enter "C1" "=D1+1",
      .enter "D1" "none"]
    TransGen s.cells.RefersTo "A1" "D1" ∧ s.cells.number? "D1" = none ∧
      s.cells.value "A1" = .error (.undefinedVariable "C1") ∧ (∃ e, s.cells.value "A1" = .error e) ∧
      ∃ m, ReflTransGen s.cells.RefersTo "A1" m ∧ s.cells.IsFaulty m := by
  intro s
  have first : s.cells.RefersTo "A1" "C1" := Cells.refersTo_iff.mpr (by decide +kernel)
  have second : s.cells.RefersTo "C1" "D1" := Cells.refersTo_iff.mpr (by decide +kernel)
  have text : s.cells.number? "D1" = none := by decide +kernel
  have error : s.cells.value "A1" = .error (.undefinedVariable "C1") := by decide +kernel
  have lead : TransGen s.cells.RefersTo "A1" "D1" := .head first (.single second)
  obtain ⟨spread, _, _, source, _⟩ := run_errors {} [.enter "B1" "0", .enter "A1" "=1/(B1-C1)",
    .enter "C1" "=D1+1", .enter "D1" "none"]
  exact ⟨lead, text, error, spread "A1" "D1" lead text, (source "A1" _ error).2⟩

end Worksheet
