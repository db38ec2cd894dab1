import Worksheet.Number
import Worksheet.Proofs.Decimal.Binary64
import Worksheet.Proofs.Decimal.Positional

/-! Number text. The text of a finite number is a literal with an optional sign, and parsing it yields
the same number; no word parses to a finite number. -/
namespace Worksheet.Number
open Text
variable {x : Float} {n : Numeral} {negative : Bool} {cs : List Char}

theorem unsigned?_text (h : n.WellFormed) (negative : Bool) :
    unsigned? negative n.text = some (ofNumeral negative n) := by
  rw [unsigned?, Numeral.scan_text h]
  exact if_pos ⟨h.nonempty, rfl⟩

theorem ofText?_of_head (h : ∀ c ∈ cs.head?, c ≠ '+' ∧ c ≠ '-') : ofText? cs = unsigned? false cs := by
  rw [ofText?, Exponent.splitSign_of_head h]
  rfl

theorem ofText?_literal (h : n.WellFormed) : ofText? n.text = some (ofNumeral false n) := by
  rw [ofText?_of_head fun c hc => ?_, unsigned?_text h]
  rcases Numeral.head_text h hc with digit | rfl
  · constructor <;> rintro rfl <;> cases digit
  · decide

/-- The literal of a number, without its sign. -/
def literal (x : Float) : Numeral := (Binary64.shortest (Binary64.pattern x)).numeral

theorem wellFormed_literal (x : Float) : (literal x).WellFormed := Decimal.wellFormed_numeral _

theorem text_eq (h : x.isFinite = true) :
    text x = (if Binary64.isNegative x then ['-'] else []) ++ (literal x).text := by
  obtain ⟨number, bounded⟩ := Binary64.isNaN_isInf_of_isFinite h
  simp only [text, number, bounded, Bool.false_eq_true, if_false, Decimal.positional_eq]
  rfl

theorem ofNumeral_literal (h : x.isFinite = true) : ofNumeral (Binary64.isNegative x) (literal x) = x := by
  rw [ofNumeral, literal, Decimal.pattern_value_numeral,
    Binary64.pattern_shortest ((Binary64.isFinite_iff x).mp h), Binary64.toFloat_pattern]

/-- Exact round trip of finite numbers, including the sign of zero. -/
theorem ofText?_text (h : x.isFinite = true) : ofText? (text x) = some x := by
  rw [text_eq h]
  conv_rhs => rw [← ofNumeral_literal h]
  cases Binary64.isNegative x with
  | false => exact ofText?_literal (wellFormed_literal x)
  | true => exact unsigned?_text (wellFormed_literal x) true

theorem visible_text (h : x.isFinite = true) : ∀ c ∈ text x, isBlank c = false := by
  rw [text_eq h]
  intro c hc
  rcases List.mem_append.mp hc with sign | hc
  · split at sign
    · rw [List.mem_singleton.mp sign]
      decide
    · cases sign
  · exact Numeral.visible_text (wellFormed_literal x) c hc

theorem exists_getLast?_text (h : x.isFinite = true) : ∃ c ∈ (text x).getLast?, c.isDigit = true := by
  obtain ⟨c, last, digit⟩ := (Binary64.shortest (Binary64.pattern x)).exists_getLast?_positional
  rw [text_eq h, literal, ← Decimal.positional_eq]
  exact ⟨c, List.mem_getLast?_append_of_mem_getLast? last, digit⟩

/-- The text of every number, finite or not, ends with a digit or a letter. -/
theorem exists_getLast?_text_isAlphanum (x : Float) : ∃ c ∈ (text x).getLast?, c.isAlphanum = true := by
  rw [text]
  split
  · exact ⟨'N', rfl, rfl⟩
  · generalize (if Binary64.isNegative x = true then ['-'] else []) = sign
    dsimp only
    split
    · exact ⟨'f', List.mem_getLast?_append_of_mem_getLast? rfl, rfl⟩
    · obtain ⟨c, last, digit⟩ := (Binary64.shortest (Binary64.pattern x)).exists_getLast?_positional
      exact ⟨c, List.mem_getLast?_append_of_mem_getLast? last, isAlphanum_of_isDigit digit⟩

theorem isFinite_of_word? (h : word? negative cs = some x) : x.isFinite = false := by
  rw [word?] at h
  split at h
  · cases h
    rw [Bool.eq_false_iff, ne_eq, Binary64.isFinite_iff, Binary64.pattern_toFloat le_rfl]
    exact Nat.lt_irrefl _
  · split at h
    · cases h
      decide +kernel
    · cases h

theorem exists_scan_of_unsigned? (h : unsigned? negative cs = some x) (finite : x.isFinite = true) :
    ∃ n, Numeral.scan cs = (n, []) ∧ n.digits ≠ [] ∧ x = ofNumeral negative n := by
  rw [unsigned?] at h
  split at h
  next n rest cut =>
  split at h
  · next whole =>
    obtain ⟨some, rfl⟩ := whole
    cases h
    exact ⟨n, cut, some, rfl⟩
  · cases (isFinite_of_word? h).symm.trans finite

/-- A text that parses to a finite number is a literal with an optional sign. -/
theorem exists_text_of_ofText? (h : ofText? cs = some x) (finite : x.isFinite = true) :
    ∃ sign n, Numeral.WellFormed n ∧ cs = Option.toList sign ++ n.text := by
  rw [ofText?] at h
  obtain ⟨n, cut, some, -⟩ := exists_scan_of_unsigned? h finite
  have rest : n.text ++ [] = (Exponent.splitSign cs).2 := Numeral.text_append_of_scan cut
  rw [List.append_nil] at rest
  exact ⟨(Exponent.splitSign cs).1, n, Numeral.wellFormed_of_scan cut some,
    by rw [rest, Exponent.splitSign_append]⟩

end Worksheet.Number
