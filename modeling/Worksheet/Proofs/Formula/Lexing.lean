import Worksheet.Formula.Lexing
import Worksheet.Proofs.Decimal.Numeral

/-! The lexical grammar of formulas: the token at the head of a text, and the tokens of a whole text. -/
namespace Worksheet
open Text

theorem Operator.ofSymbol?_eq_some {c : Char} {op : Operator} : ofSymbol? c = some op ↔ c = op.symbol := by
  constructor
  · intro h
    rw [ofSymbol?.eq_def] at h
    split at h <;> cases h <;> rfl
  · rintro rfl
    exact ofSymbol?_symbol op

namespace Token
variable {t : Token} {ts : List Token} {c : Char} {cs rest : List Char}

/-- Lexing the first text yields the token and leaves the second text. -/
inductive Begins : Token → List Char → List Char → Prop
  | operator (op : Operator) (rest : List Char) : Begins (.operator op) (op.symbol :: rest) rest
  | left (rest : List Char) : Begins .left ('(' :: rest) rest
  | right (rest : List Char) : Begins .right (')' :: rest) rest
  | number {cs rest : List Char} {n : Numeral} (cut : Numeral.scan cs = (n, rest)) (some : n.digits ≠ [])
      (finite : (Number.ofNumeral false n).isFinite = true) : Begins (.number (Number.ofNumeral false n)) cs rest
  | var {c : Char} {body rest : List Char} (first : c.isAlpha = true) (others : ∀ d ∈ body, d.isAlphanum = true)
      (stop : ∀ d ∈ rest.head?, d.isAlphanum = false) :
      Begins (.var (String.ofList (c :: body))) (c :: (body ++ rest)) rest

/-- The text consists of the tokens, separated and surrounded by blanks. -/
inductive Lexes : List Char → List Token → Prop
  | nil : Lexes [] []
  | blank {c : Char} {cs : List Char} {ts : List Token} (blank : isBlank c = true) :
      Lexes cs ts → Lexes (c :: cs) ts
  | token {t : Token} {ts : List Token} {cs rest : List Char} :
      Begins t cs rest → Lexes rest ts → Lexes cs (t :: ts)

theorem lexNumber_eq_ok : lexNumber cs = .ok (t, rest) ↔
    ∃ n, Numeral.scan cs = (n, rest) ∧ n.digits ≠ [] ∧ (Number.ofNumeral false n).isFinite = true ∧
      t = .number (Number.ofNumeral false n) := by
  rw [lexNumber]
  generalize Numeral.scan cs = cut
  obtain ⟨n, tail⟩ := cut
  simp only [Prod.mk.injEq]
  constructor
  · intro h
    split at h
    · cases h
    · next some =>
      split at h
      · next finite =>
        cases h
        exact ⟨n, ⟨rfl, rfl⟩, some, finite, rfl⟩
      · cases h
  · rintro ⟨_, ⟨rfl, rfl⟩, some, finite, rfl⟩
    rw [if_neg some, if_pos finite]

theorem lex_of_head (h : c.isDigit = true ∨ c = '.') : lex c cs = lexNumber (c :: cs) := by
  have plain : Operator.ofSymbol? c = none ∧ c ≠ '(' ∧ c ≠ ')' := by
    rcases h with digit | rfl
    · have plain := isPlain_of_isAlphanum (isAlphanum_of_isDigit digit)
      exact ⟨plain.noSymbol, plain.noParenthesis⟩
    · decide
  rw [lex, plain.1]
  simp only [if_neg plain.2.1, if_neg plain.2.2, if_pos h]

theorem lex_of_isAlpha (h : c.isAlpha = true) : lex c cs =
    .ok (.var (String.ofList (c :: cs.takeWhile Char.isAlphanum)), cs.dropWhile Char.isAlphanum) := by
  have plain := isPlain_of_isAlphanum (isAlphanum_of_isAlpha h)
  have noDigit : ¬ (c.isDigit = true ∨ c = '.') := by
    rw [not_or, Bool.not_eq_true]
    exact ⟨isDigit_of_isAlpha h, plain.noPoint⟩
  rw [lex, plain.noSymbol]
  simp only [if_neg plain.noParenthesis.1, if_neg plain.noParenthesis.2, if_neg noDigit, if_pos h]

theorem begins_of_lex (h : lex c cs = .ok (t, rest)) : Begins t (c :: cs) rest := by
  rw [lex] at h
  split at h
  · next op symbol =>
    cases h
    rw [Operator.ofSymbol?_eq_some.mp symbol]
    exact .operator op _
  split at h
  · next e =>
    cases h
    exact e ▸ .left _
  split at h
  · next e =>
    cases h
    exact e ▸ .right _
  split at h
  · obtain ⟨n, cut, some, finite, rfl⟩ := lexNumber_eq_ok.mp h
    exact .number cut some finite
  split at h
  · next alpha =>
    cases h
    have stop (d : Char) (hd : d ∈ (cs.dropWhile Char.isAlphanum).head?) : d.isAlphanum = false := by
      have head := cs.head?_dropWhile_not Char.isAlphanum
      rwa [Option.mem_def.mp hd] at head
    have others (d : Char) (hd : d ∈ cs.takeWhile Char.isAlphanum) : d.isAlphanum = true :=
      List.mem_takeWhile_imp hd
    have whole := Begins.var alpha others stop
    rwa [List.takeWhile_append_dropWhile] at whole
  · cases h

theorem lex_eq_ok : lex c cs = .ok (t, rest) ↔ Begins t (c :: cs) rest := by
  refine ⟨begins_of_lex, fun h => ?_⟩
  generalize whole : c :: cs = text at h
  cases h with
  | operator op =>
    cases whole
    rw [lex, Operator.ofSymbol?_symbol]
  | left | right =>
    cases whole
    rfl
  | @number _ _ n cut some finite =>
    subst whole
    rw [lex_of_head (Numeral.head_of_scan cut some), lexNumber_eq_ok]
    exact ⟨n, cut, some, finite, rfl⟩
  | var first others stop =>
    cases whole
    rw [lex_of_isAlpha first, takeWhile_append_stop others stop, dropWhile_append_stop others stop]

theorem visible_of_head (h : c.isDigit = true ∨ c = '.') : isBlank c = false := by
  rcases h with digit | rfl
  · exact (isPlain_of_isAlphanum (isAlphanum_of_isDigit digit)).visible
  · decide

theorem Begins.exists_cons (h : Begins t cs rest) : ∃ c body, cs = c :: body ∧ isBlank c = false := by
  cases h with
  | operator op =>
    refine ⟨_, _, rfl, ?_⟩
    cases op <;> decide
  | left | right => exact ⟨_, _, rfl, by decide⟩
  | number cut some =>
    cases cs with
    | nil =>
      cases cut
      exact absurd rfl some
    | cons c cs =>
      exact ⟨c, cs, rfl, visible_of_head (Numeral.head_of_scan cut some)⟩
  | var first => exact ⟨_, _, rfl, (isPlain_of_isAlphanum (isAlphanum_of_isAlpha first)).visible⟩

theorem lexAll_of_lex (visible : isBlank c = false) (first : lex c cs = .ok (t, rest)) :
    lexAll (c :: cs) = (lexAll rest).map (t :: ·) := by
  rw [lexAll, if_neg (Bool.eq_false_iff.mp visible)]
  split
  · next he => cases first.symm.trans he
  · next he =>
    cases first.symm.trans he
    rfl

theorem lexAll_of_lex_eq_error {reason : Malformed} (visible : isBlank c = false)
    (refused : lex c cs = .error reason) : lexAll (c :: cs) = .error reason := by
  rw [lexAll, if_neg (Bool.eq_false_iff.mp visible)]
  split
  · next found =>
    obtain rfl := Except.error.inj (found.symm.trans refused)
    rfl
  · next found => cases found.symm.trans refused

theorem lexAll_of_begins (h : Begins t cs rest) : lexAll cs = (lexAll rest).map (t :: ·) := by
  obtain ⟨c, body, rfl, visible⟩ := h.exists_cons
  exact lexAll_of_lex visible (lex_eq_ok.mpr h)

theorem lexes_of_lexAll (h : lexAll cs = .ok ts) : Lexes cs ts := by
  fun_induction lexAll cs generalizing ts with
  | case1 =>
    cases h
    exact .nil
  | case2 c cs blank ih => exact .blank blank (ih h)
  | case3 => cases h
  | case4 c cs visible t rest first shorter ih =>
    cases others : lexAll rest with
    | error reason =>
      rw [others] at h
      cases h
    | ok ts =>
      rw [others] at h
      cases h
      exact .token (lex_eq_ok.mp first) (ih others)

theorem lexAll_eq_ok : lexAll cs = .ok ts ↔ Lexes cs ts := by
  refine ⟨lexes_of_lexAll, fun h => ?_⟩
  induction h with
  | nil => rw [lexAll]
  | blank blank _ ih => rw [lexAll, if_pos blank, ih]
  | token begins _ ih =>
    rw [lexAll_of_begins begins, ih]
    rfl

theorem Lexes.isBlank (h : Lexes cs []) : ∀ c ∈ cs, isBlank c = true := by
  generalize none : [] = ts at h
  induction h with
  | nil => exact nofun
  | blank blank _ ih => exact List.forall_mem_cons.mpr ⟨blank, ih none⟩
  | token => cases none

theorem Lexes.exists_begins (h : Lexes cs (t :: ts)) :
    ∃ pre body rest, cs = pre ++ body ∧ (∀ c ∈ pre, Text.isBlank c = true) ∧ Begins t body rest ∧
      Lexes rest ts := by
  generalize some : t :: ts = tokens at h
  induction h with
  | nil => cases some
  | blank blank _ ih =>
    obtain ⟨pre, body, rest, rfl, hpre, begins, others⟩ := ih some
    exact ⟨_ :: pre, body, rest, rfl, List.forall_mem_cons.mpr ⟨blank, hpre⟩, begins, others⟩
  | token begins others =>
    cases some
    exact ⟨[], _, _, rfl, nofun, begins, others⟩

end Token
end Worksheet
