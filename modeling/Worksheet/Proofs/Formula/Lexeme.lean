import Worksheet.Proofs.Decimal.Numeral
import Mathlib

/-! The lexical grammar of formulas as regular languages, and the scanned literal as the longest
match. -/
namespace Worksheet
open Text Computability

namespace Text
variable {p : Char → Bool} {cs : List Char} {l : Language Char}

/-- The one-character texts of a class. -/
def one (p : Char → Bool) : Language Char := {cs | ∃ c, p c = true ∧ cs = [c]}

def oneOf (choices : List Char) : Language Char := one fun c => choices.contains c

theorem mem_oneOf {choices : List Char} : cs ∈ oneOf choices ↔ ∃ c ∈ choices, cs = [c] := by
  change (∃ c, choices.contains c = true ∧ cs = [c]) ↔ _
  simp only [List.contains_iff_mem]

theorem mem_one_mul : cs ∈ one p * l ↔ ∃ c body, cs = c :: body ∧ p c = true ∧ body ∈ l := by
  rw [Language.mem_mul]
  constructor
  · rintro ⟨_, ⟨c, hc, rfl⟩, body, hb, rfl⟩
    exact ⟨c, body, rfl, hc, hb⟩
  · rintro ⟨c, body, rfl, hc, hb⟩
    exact ⟨[c], ⟨c, hc, rfl⟩, body, hb, rfl⟩

theorem mem_one_star : cs ∈ (one p)∗ ↔ ∀ c ∈ cs, p c = true := by
  rw [Language.mem_kstar]
  constructor
  · rintro ⟨parts, rfl, single⟩ c hc
    obtain ⟨part, hp, hc⟩ := List.mem_flatten.mp hc
    obtain ⟨d, hd, rfl⟩ := single part hp
    rwa [List.mem_singleton.mp hc]
  · intro inside
    refine ⟨cs.map fun c => [c], ?_, fun part hp => ?_⟩
    · rw [← List.flatMap_def, List.flatMap_singleton']
    · obtain ⟨c, hc, rfl⟩ := List.mem_map.mp hp
      exact ⟨c, inside c hc, rfl⟩

end Text

namespace Lexeme

def digit : Language Char := one Char.isDigit

def digits : Language Char := digit * digit∗

/-- The language of `[eE][+-]?[0-9]+`. -/
def exponent : Language Char := oneOf ['e', 'E'] * (1 + oneOf ['+', '-']) * digits

/-- The language of `[0-9]+\.[0-9]*|[0-9]*\.[0-9]+|[0-9]+`. -/
def mantissa : Language Char := digits * oneOf ['.'] * digit∗ + digit∗ * oneOf ['.'] * digits + digits

/-- A mantissa with an optional exponent. -/
def number : Language Char := mantissa * (1 + exponent)

/-- The language of `[A-Za-z][A-Za-z0-9]*`. -/
def word : Language Char := one Char.isAlpha * (one Char.isAlphanum)∗

/-- The operator symbols and the parentheses. -/
def symbol : Language Char := oneOf ['+', '-', '*', '/', '(', ')']

variable {cs : List Char}

theorem mem_digits : cs ∈ digits ↔ cs ≠ [] ∧ ∀ c ∈ cs, c.isDigit = true := by
  rw [digits, digit, mem_one_mul]
  constructor
  · rintro ⟨c, body, rfl, hc, hb⟩
    exact ⟨List.cons_ne_nil c body, List.forall_mem_cons.mpr ⟨hc, mem_one_star.mp hb⟩⟩
  · rintro ⟨nonempty, inside⟩
    obtain ⟨c, body, rfl⟩ := List.exists_cons_of_ne_nil nonempty
    obtain ⟨hc, hb⟩ := List.forall_mem_cons.mp inside
    exact ⟨c, body, rfl, hc, mem_one_star.mpr hb⟩

theorem mem_exponent : cs ∈ exponent ↔ ∃ e : Exponent, e.WellFormed ∧ e.text = cs := by
  rw [exponent, Language.mem_mul]
  constructor
  · rintro ⟨_, ⟨_, first, sign, hs, rfl⟩, ds, hd, rfl⟩
    obtain ⟨mark, hm, rfl⟩ := mem_oneOf.mp first
    obtain ⟨nonempty, inside⟩ := mem_digits.mp hd
    rcases hs with rfl | hs
    · exact ⟨⟨mark, none, ds⟩, ⟨by simpa using hm, .inl rfl, inside, nonempty⟩, rfl⟩
    · obtain ⟨c, hc, rfl⟩ := mem_oneOf.mp hs
      exact ⟨⟨mark, some c, ds⟩, ⟨by simpa using hm, .inr (by simpa using hc), inside, nonempty⟩, rfl⟩
  · rintro ⟨e, h, rfl⟩
    refine ⟨e.mark :: e.sign.toList, ⟨[e.mark], ?_, e.sign.toList, ?_, rfl⟩, e.digits, ?_, rfl⟩
    · exact mem_oneOf.mpr ⟨e.mark, by simpa using h.mark, rfl⟩
    · cases hs : e.sign with
      | none => exact .inl rfl
      | some c => exact .inr (mem_oneOf.mpr ⟨c, by simpa [hs] using h.sign, rfl⟩)
    · exact mem_digits.mpr ⟨h.nonempty, h.digits⟩

theorem mem_point : cs ∈ oneOf ['.'] ↔ cs = ['.'] := by
  rw [mem_oneOf]
  simp only [List.mem_singleton, exists_eq_left]

theorem mem_mantissa : cs ∈ mantissa ↔ ∃ whole fraction, cs = whole ++ Numeral.pointText fraction ∧
    (∀ c ∈ whole, c.isDigit = true) ∧ (∀ ds ∈ fraction, ∀ c ∈ ds, c.isDigit = true) ∧
      whole ++ fraction.getD [] ≠ [] := by
  constructor
  · rintro ((⟨_, ⟨whole, hw, point, hp, rfl⟩, ds, hd, rfl⟩ | ⟨_, ⟨whole, hw, point, hp, rfl⟩, ds, hd, rfl⟩) | hd)
    · obtain rfl := mem_point.mp hp
      obtain ⟨nonempty, inside⟩ := mem_digits.mp hw
      refine ⟨whole, some ds, List.append_assoc .., inside, ?_, List.append_ne_nil_of_left_ne_nil nonempty ds⟩
      rintro _ ⟨⟩
      exact mem_one_star.mp hd
    · obtain rfl := mem_point.mp hp
      obtain ⟨nonempty, inside⟩ := mem_digits.mp hd
      refine ⟨whole, some ds, List.append_assoc .., mem_one_star.mp hw, ?_,
        List.append_ne_nil_of_right_ne_nil whole nonempty⟩
      rintro _ ⟨⟩
      exact inside
    · obtain ⟨nonempty, inside⟩ := mem_digits.mp hd
      exact ⟨cs, none, (List.append_nil cs).symm, inside, nofun, by rwa [Option.getD_none, List.append_nil]⟩
  · rintro ⟨whole, fraction, rfl, hw, hf, nonempty⟩
    cases fraction with
    | none =>
      rw [Option.getD_none, List.append_nil] at nonempty
      rw [Numeral.pointText, List.append_nil]
      exact .inr (mem_digits.mpr ⟨nonempty, hw⟩)
    | some ds =>
      have cut : whole ++ Numeral.pointText (some ds) = whole ++ ['.'] ++ ds := by simp [Numeral.pointText]
      rw [cut]
      by_cases none : whole = []
      · subst none
        have right : ds ∈ digits := mem_digits.mpr ⟨nonempty, hf ds rfl⟩
        exact .inl (.inr ⟨_, ⟨[], mem_one_star.mpr hw, _, mem_point.mpr rfl, rfl⟩, ds, right, rfl⟩)
      · have left : whole ∈ digits := mem_digits.mpr ⟨none, hw⟩
        have right : ds ∈ digit∗ := mem_one_star.mpr (hf ds rfl)
        exact .inl (.inl ⟨_, ⟨whole, left, _, mem_point.mpr rfl, rfl⟩, ds, right, rfl⟩)

/-- The language of literals is the set of texts of well-formed literals. -/
theorem mem_number : cs ∈ number ↔ ∃ n : Numeral, n.WellFormed ∧ n.text = cs := by
  rw [number, Language.mem_mul]
  constructor
  · rintro ⟨_, hm, tail, ht, rfl⟩
    obtain ⟨whole, fraction, rfl, hw, hf, nonempty⟩ := mem_mantissa.mp hm
    rcases ht with rfl | ht
    · exact ⟨⟨whole, fraction, none⟩, ⟨hw, hf, nofun, nonempty⟩, rfl⟩
    · obtain ⟨e, he, rfl⟩ := mem_exponent.mp ht
      refine ⟨⟨whole, fraction, some e⟩, ⟨hw, hf, ?_, nonempty⟩, rfl⟩
      rintro _ ⟨⟩
      exact he
  · rintro ⟨n, h, rfl⟩
    refine ⟨_, mem_mantissa.mpr ⟨n.whole, n.fraction, rfl, h.whole, h.fraction, h.nonempty⟩,
      n.exponentText, ?_, rfl⟩
    rw [Numeral.exponentText]
    cases he : n.exponent with
    | none => exact .inl rfl
    | some e => exact .inr (mem_exponent.mpr ⟨e, h.exponent e he, rfl⟩)

theorem mem_word :
    cs ∈ word ↔ ∃ c body, cs = c :: body ∧ c.isAlpha = true ∧ ∀ d ∈ body, d.isAlphanum = true := by
  simp only [word, mem_one_mul, mem_one_star]

/-- The slice is the longest prefix of the text in the language. -/
structure IsLongest (l : Language Char) (slice text : List Char) : Prop where
  mem : slice ∈ l
  head : slice <+: text
  longest : ∀ other ∈ l, other <+: text → other.length ≤ slice.length

variable {l : Language Char} {slice text rest : List Char} {n : Numeral}

theorem IsLongest.unique {other : List Char} (h : IsLongest l slice text) (h' : IsLongest l other text) :
    slice = other := by
  have short := h.longest other h'.mem h'.head
  have long := h'.longest slice h.mem h.head
  exact (List.prefix_of_prefix_length_le h.head h'.head long).eq_of_length (Nat.le_antisymm long short)

theorem isLongest_of_scan (cut : Numeral.scan text = (n, rest)) (some : n.digits ≠ []) :
    IsLongest number n.text text := by
  have whole := Numeral.text_append_of_scan cut
  refine ⟨mem_number.mpr ⟨n, Numeral.wellFormed_of_scan cut some, rfl⟩, ⟨rest, whole⟩, ?_⟩
  rintro other mem ⟨tail, rfl⟩
  obtain ⟨m, hm, rfl⟩ := mem_number.mp mem
  have longest := (Numeral.scan_text_append_longest hm tail).2
  have length := congrArg List.length whole
  rw [cut] at longest
  simp only [List.length_append] at length longest
  omega

theorem digits_of_scan (cut : Numeral.scan text = (n, rest)) (mem : slice ∈ number) (head : slice <+: text) :
    n.digits ≠ [] := by
  obtain ⟨m, hm, rfl⟩ := mem_number.mp mem
  obtain ⟨tail, rfl⟩ := head
  have some := (Numeral.scan_text_append_longest hm tail).1
  rwa [cut] at some

theorem isLongest_number_iff :
    IsLongest number slice text ↔ ∃ n rest, Numeral.scan text = (n, rest) ∧ n.digits ≠ [] ∧ n.text = slice := by
  constructor
  · intro h
    have some := digits_of_scan rfl h.mem h.head
    exact ⟨_, _, rfl, some, (isLongest_of_scan rfl some).unique h⟩
  · rintro ⟨n, rest, cut, some, rfl⟩
    exact isLongest_of_scan cut some

theorem isLongest_word_iff : IsLongest word slice (slice ++ rest) ↔
    slice ∈ word ∧ ∀ c ∈ rest.head?, c.isAlphanum = false := by
  constructor
  · intro h
    refine ⟨h.mem, fun c hc => Bool.eq_false_iff.mpr fun more => ?_⟩
    obtain ⟨tail, rfl⟩ := List.head?_eq_some_iff.mp hc
    obtain ⟨first, body, rfl, alpha, others⟩ := mem_word.mp h.mem
    have longer : first :: body ++ [c] ∈ word :=
      mem_word.mpr ⟨first, body ++ [c], rfl, alpha, List.forall_mem_append.mpr ⟨others, by simpa using more⟩⟩
    have short := h.longest _ longer ⟨tail, by simp⟩
    simp at short
  · rintro ⟨mem, stop⟩
    refine ⟨mem, List.prefix_append slice rest, ?_⟩
    rintro other mem' ⟨tail, whole⟩
    obtain ⟨first, body, rfl, alpha, others⟩ := mem_word.mp mem'
    rcases List.append_eq_append_iff.mp whole with ⟨more, rfl, _⟩ | ⟨more, split, rfl⟩
    · simp
    · cases more with
      | nil => rw [split, List.append_nil]
      | cons c more =>
        have inside : ∀ d ∈ first :: body, d.isAlphanum = true :=
          List.forall_mem_cons.mpr ⟨isAlphanum_of_isAlpha alpha, others⟩
        have next : c ∈ first :: body := split ▸ List.mem_append_right slice List.mem_cons_self
        cases (stop c rfl).symm.trans (inside c next)

end Lexeme
end Worksheet
