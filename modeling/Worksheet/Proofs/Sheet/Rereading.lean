import Worksheet.Proofs.Sheet.Writing

/-! Entering the written contents of a cell again, under arbitrary markers. Only a formula that consists
of one operand can be read as something else, namely as a number together with the marker. -/
namespace Worksheet.Config
open Text
variable {c : Config} {raw : String} {body : List Char} {f : Formula} {contents : Contents} {x : Float}

section
variable (read : Formula.ofTextWith c.normalize c.admits body = .ok f)
include read

theorem exists_getLast?_text {t : Token} (ht : t ∈ f.tokens) (begins : t.beginsOperand = true)
    (ends : t.endsOperand = true) : ∃ d ∈ t.text.getLast?, d.isDigit = true := by
  cases t with
  | number x =>
    have writable := writable_of_ofTextWith read _ ht
    exact Number.exists_getLast?_text writable.1
  | var name =>
    have admitted := Formula.ofTextWith_accepts read name (Formula.mem_variableNames.mpr ht)
    obtain ⟨letters, digits, whole, -, some, -, digit⟩ := exists_letters_digits_of_admits admitted
    obtain ⟨d, last, digit⟩ := exists_getLast? some digit
    rw [Token.text, whole]
    exact ⟨d, List.mem_getLast?_append_of_mem_getLast? last, digit⟩
  | operator _ | left => cases ends
  | right => cases begins

/-- A formula whose text is a suffix of a literal is a single token. -/
theorem eq_singleton_of_text_eq {pre : List Char} {n : Numeral} (wellFormed : n.WellFormed)
    (cut : n.text = pre ++ f.text) : ∃ t, f.tokens = [t] := by
  rcases Token.checkShape_cases f.shape with single | ⟨rest, tokens⟩ | ⟨t, op, rest, tokens, begins, ends⟩
  · exact single
  · rw [Formula.text, tokens] at cut
    obtain ⟨sign, -⟩ := Numeral.sign_of_text_eq wellFormed cut rfl (by decide)
    exact absurd sign (by decide)
  · obtain ⟨d, last, digit⟩ := exists_getLast?_text read (tokens ▸ List.mem_cons_self) begins ends
    rw [Formula.text, tokens, List.flatMap_cons, List.flatMap_cons, ← List.append_assoc] at cut
    have symbol : op.symbol.isAlphanum = false ∧ op.symbol ≠ '.' := by cases op <;> decide
    obtain ⟨-, m, hm, mark⟩ := Numeral.sign_of_text_eq wellFormed cut symbol.1 symbol.2
    obtain rfl := Option.mem_unique hm (List.mem_getLast?_append_of_mem_getLast? last)
    rcases mark with rfl | rfl <;> cases digit

/-- If the marker followed by a formula is a finite number, the formula is a single operand. -/
theorem exists_eq_singleton (number : finiteNumber? (c.marker :: f.text) = some x) : ∃ t, f.tokens = [t] := by
  have writable := writable_of_ofTextWith read
  have visible := Formula.visible_text writable
  obtain ⟨literal, finite⟩ := finiteNumber?_eq_some.mp number
  cases blank : isBlank c.marker with
  | true =>
    rw [trim_cons blank, trim_eq_self visible] at literal
    exact ⟨_, (Token.lexAll_eq_ok.mp (Formula.lexAll_text writable)).eq_number f.shape literal finite⟩
  | false =>
    rw [trim_eq_self (List.forall_mem_cons.mpr ⟨blank, visible⟩)] at literal
    obtain ⟨sign, n, wellFormed, cut⟩ := Number.exists_text_of_ofText? literal finite
    cases sign with
    | none =>
      have whole : n.text = [c.marker] ++ f.text := cut.symm
      exact eq_singleton_of_text_eq read wellFormed whole
    | some sign =>
      have rest : n.text = [] ++ f.text := (List.tail_eq_of_cons_eq cut).symm
      exact eq_singleton_of_text_eq read wellFormed rest

theorem beginsNumber_and_eq_singleton {raw : String} (marked : c.IsMarked raw body)
    (number : finiteNumber? (c.marker :: f.text) = some x) : BeginsNumber c.marker ∧ ∃ t, f.tokens = [t] := by
  refine ⟨?_, exists_eq_singleton read number⟩
  by_contra plain
  cases number.symm.trans (finiteNumber?_marker plain marked read)

end

/-- Exact condition for recovering contents from their written text: it fails only for a formula of one
operand that forms a finite number together with a marker that can begin a number, and then this number
is read. -/
theorem readEntry_written_eq_ok_iff (c : Config) (raw : String) {contents : Contents}
    (h : c.readEntry raw = .ok contents) :
    (c.readEntry (contents.written c.marker) = .ok contents ↔
      ∀ f t, contents = .formula f → f.tokens = [t] → finiteNumber? (c.marker :: t.text) = none) ∧
    ∀ f t x, contents = .formula f → f.tokens = [t] → finiteNumber? (c.marker :: t.text) = some x →
      BeginsNumber c.marker ∧ c.readEntry (contents.written c.marker) = .ok (.number x) := by
  have text {f : Formula} {t : Token} (single : f.tokens = [t]) : f.text = t.text := by
    rw [Formula.text, single, List.flatMap_singleton]
  have lost {f : Formula} {t : Token} {x : Float} (formula : contents = .formula f) (single : f.tokens = [t])
      (number : finiteNumber? (c.marker :: t.text) = some x) :
      BeginsNumber c.marker ∧ c.readEntry (contents.written c.marker) = .ok (.number x) := by
    subst formula
    rw [← text single] at number
    obtain ⟨body, marked, read⟩ := readEntry_eq_formula.mp h
    refine ⟨(beginsNumber_and_eq_singleton read marked number).1, readEntry_eq_number.mpr ?_⟩
    rw [Contents.written, String.toList_ofList]
    exact number
  refine ⟨⟨fun again f t formula single => ?_, fun none => ?_⟩, fun f t x => lost⟩
  · rw [Option.eq_none_iff_forall_not_mem]
    intro x number
    have number := again.symm.trans (lost formula single number).2
    rw [formula] at number
    cases number
  · refine readEntry_written_of_eq_none h ?_
    rintro f rfl
    obtain ⟨body, marked, read⟩ := readEntry_eq_formula.mp h
    rw [Option.eq_none_iff_forall_not_mem]
    intro x number
    obtain ⟨-, t, single⟩ := beginsNumber_and_eq_singleton read marked number
    cases (none f t rfl single).symm.trans (text single ▸ number)

/-- The blank between the marker and the name is not written. -/
theorem readEntry_written_exponent :
    let c : Config := { marker := '1' }
    let f : Formula := ⟨[.var "E5"], rfl⟩
    c.readEntry "1 e5" = .ok (.formula f) ∧
      c.readEntry ((Contents.formula f).written c.marker) = .ok (.number 100000) := by
  intro c f
  have read : c.readEntry "1 e5" = .ok (.formula f) := by decide +kernel
  have number : finiteNumber? (c.marker :: (Token.var "E5").text) = some 100000 := by decide +kernel
  exact ⟨read, ((readEntry_written_eq_ok_iff c "1 e5" read).2 f _ _ rfl rfl number).2⟩

/-- The recovery is not unconditional: a formula after a minus sign as marker is read as a negative
number. -/
theorem not_forall_readEntry_written : ¬ ∀ (c : Config) (raw : String) (contents : Contents),
    c.readEntry raw = .ok contents → c.readEntry (contents.written c.marker) = .ok contents := by
  intro always
  let f : Formula := ⟨[.number 2], rfl⟩
  have read : Config.readEntry { marker := '-' } "- 2" = .ok (.formula f) := by decide +kernel
  have number : Config.readEntry { marker := '-' } ((Contents.formula f).written '-') = .ok (.number (-2)) := by
    decide +kernel
  cases number.symm.trans (always _ _ _ read)

end Worksheet.Config
