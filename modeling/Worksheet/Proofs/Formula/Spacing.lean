import Worksheet.Formula.Basic
import Worksheet.Proofs.Formula.Lexing
import Worksheet.Proofs.Number

/-! Independence of spacing. Tokens are recovered from their text under every spacing that separates
adjacent operands. -/
namespace Worksheet
open Text

namespace Token
variable {t : Token} {ts : List Token} {c : Char} {cs rest : List Char} {x : Float}

/-- A letter followed by letters and digits. -/
def IsWord (cs : List Char) : Prop :=
  ∃ c body, cs = c :: body ∧ c.isAlpha = true ∧ ∀ d ∈ body, d.isAlphanum = true

/-- The tokens that can be recovered from their text: finite nonnegative numbers, words, and all
symbols. -/
def Writable : Token → Prop
  | number x => x.isFinite = true ∧ Binary64.isNegative x = false
  | var name => IsWord name.toList
  | operator _ | left | right => True

theorem IsWord.isAlphanum (h : IsWord cs) : ∀ c ∈ cs, c.isAlphanum = true := by
  obtain ⟨c, body, rfl, first, others⟩ := h
  exact List.forall_mem_cons.mpr ⟨isAlphanum_of_isAlpha first, others⟩

theorem Begins.writable (h : Begins t cs rest) : t.Writable := by
  cases h with
  | operator | left | right => trivial
  | @number _ _ n _ _ finite =>
    exact ⟨finite, Binary64.isNegative_toFloat n.value.pattern_le_infinity⟩
  | var first others => exact ⟨_, _, String.toList_ofList, first, others⟩

theorem Lexes.writable (h : Lexes cs ts) : ∀ t ∈ ts, t.Writable := by
  induction h with
  | nil => exact nofun
  | blank _ _ ih => exact ih
  | token begins _ ih => exact List.forall_mem_cons.mpr ⟨begins.writable, ih⟩

theorem visible_text (h : t.Writable) : ∀ c ∈ t.text, isBlank c = false := by
  cases t with
  | number x => exact Number.visible_text h.1
  | var name => exact fun c hc => (isPlain_of_isAlphanum (h.isAlphanum c hc)).visible
  | operator op =>
    intro c hc
    rw [List.mem_singleton.mp hc]
    cases op <;> decide
  | left | right =>
    intro c hc
    rw [List.mem_singleton.mp hc]
    decide

theorem begins_number (h : Writable (.number x)) (stop : IsBreak rest) :
    Begins (.number x) (Number.text x ++ rest) rest := by
  obtain ⟨finite, sign⟩ := h
  have value := Number.ofNumeral_literal finite
  have text := Number.text_eq finite
  rw [sign] at value text
  have wellFormed := Number.wellFormed_literal x
  have begins : Begins (.number (Number.ofNumeral false (Number.literal x))) _ rest :=
    .number (Numeral.scan_text_append wellFormed stop) wellFormed.nonempty (by rwa [value])
  rw [text, if_neg Bool.false_ne_true, List.nil_append]
  rwa [value] at begins

theorem begins_var {name : String} (h : Writable (.var name)) (stop : IsBreak rest) :
    Begins (.var name) (name.toList ++ rest) rest := by
  obtain ⟨c, body, word, first, others⟩ := h
  have whole : name = String.ofList (c :: body) := by rw [← word, String.ofList_toList]
  rw [word, whole]
  exact .var first others fun d hd => (stop d hd).1

theorem isBreak_of_isBlank (blank : isBlank c = true) : IsBreak (c :: rest) := by
  rintro _ ⟨⟩
  refine ⟨Bool.eq_false_iff.mpr fun h => ?_, ?_⟩
  · cases blank.symm.trans (isPlain_of_isAlphanum h).visible
  · rintro rfl
    cases blank

/-- The tokens that must be separated from an adjacent one of the same kind. -/
def isOperand : Token → Bool
  | number _ | var _ => true
  | operator _ | left | right => false

theorem ne_of_isOperand {next : Token} (h : t.isOperand = true) (h' : next.isOperand = true) :
    next.comesAfterOperand ≠ t.endsOperand := by
  cases t <;> cases next <;> simp_all [isOperand, comesAfterOperand, endsOperand]

theorem begins_text (h : t.Writable) (stop : t.isOperand = true → IsBreak rest) :
    Begins t (t.text ++ rest) rest := by
  cases t with
  | number x => exact begins_number h (stop rfl)
  | var name => exact begins_var h (stop rfl)
  | operator op => exact .operator op rest
  | left => exact .left rest
  | right => exact .right rest

theorem isBreak_text (h : t.isOperand = false) : IsBreak (t.text ++ rest) := by
  cases t with
  | number _ | var _ => cases h
  | operator op =>
    rintro _ ⟨⟩
    cases op <;> decide
  | left | right =>
    rintro _ ⟨⟩
    decide

/-- A token with the blanks before it. -/
structure Spaced where
  blanks : List Char
  token : Token

namespace Spaced

def text (p : Spaced) : List Char := p.blanks ++ p.token.text

/-- The text of spaced tokens, followed by `last`. -/
def layout (ps : List Spaced) (last : List Char) : List Char := ps.flatMap text ++ last

/-- All tokens are writable, the spaces are blanks, and adjacent operands are separated by at least one
blank. -/
structure Legible (ps : List Spaced) (last : List Char) : Prop where
  writable : ∀ p ∈ ps, p.token.Writable
  blank : ∀ p ∈ ps, ∀ c ∈ p.blanks, isBlank c = true
  last : ∀ c ∈ last, isBlank c = true
  apart : ps.IsChain fun p next => p.token.isOperand = true → next.token.isOperand = true → next.blanks ≠ []

variable {ps : List Spaced} {last : List Char}

theorem Legible.tail {p : Spaced} (h : Legible (p :: ps) last) : Legible ps last where
  writable := (List.forall_mem_cons.mp h.writable).2
  blank := (List.forall_mem_cons.mp h.blank).2
  last := h.last
  apart := h.apart.tail

theorem Legible.isBreak {p : Spaced} (h : Legible (p :: ps) last) (operand : p.token.isOperand = true) :
    IsBreak (layout ps last) := by
  cases ps with
  | nil =>
    cases last with
    | nil => exact isBreak_nil
    | cons c last => exact isBreak_of_isBlank (h.last c List.mem_cons_self)
  | cons next ps =>
    rw [layout, List.flatMap_cons, text, List.append_assoc, List.append_assoc]
    have apart := (List.isChain_cons_cons.mp h.apart).1 operand
    cases hb : next.blanks with
    | nil => exact isBreak_text (Bool.eq_false_iff.mpr fun other => apart other hb)
    | cons c blanks =>
      have blank := h.tail.blank next List.mem_cons_self
      rw [hb] at blank
      exact isBreak_of_isBlank (blank c List.mem_cons_self)

end Spaced

theorem lexes_append_blanks {blanks : List Char} (blank : ∀ c ∈ blanks, isBlank c = true) (h : Lexes cs ts) :
    Lexes (blanks ++ cs) ts := by
  induction blanks with
  | nil => exact h
  | cons c blanks ih =>
    obtain ⟨first, others⟩ := List.forall_mem_cons.mp blank
    exact .blank first (ih others)

open Spaced in
theorem lexes_layout {ps : List Spaced} {last : List Char} (h : Legible ps last) :
    Lexes (layout ps last) (ps.map token) := by
  induction ps with
  | nil =>
    have blanks := lexes_append_blanks h.last .nil
    rwa [List.append_nil] at blanks
  | cons p ps ih =>
    have begins := begins_text (h.writable p List.mem_cons_self) h.isBreak
    rw [layout, List.flatMap_cons, Spaced.text, List.append_assoc, List.append_assoc]
    exact lexes_append_blanks (h.blank p List.mem_cons_self) (.token begins (ih h.tail))

open Spaced in
/-- The text of a legible layout lexes to its tokens. Consequently two layouts of the same tokens have
the same parse. -/
theorem lexAll_layout {ps : List Spaced} {last : List Char} (legible : Legible ps last) :
    lexAll (layout ps last) = .ok (ps.map token) ∧
      ∀ others last', Legible others last' → others.map token = ps.map token → ∀ normalize accepts,
        Formula.ofTextWith normalize accepts (layout others last') =
          Formula.ofTextWith normalize accepts (layout ps last) := by
  have lexed := lexAll_eq_ok.mpr (lexes_layout legible)
  refine ⟨lexed, fun others last' legible' same normalize accepts => ?_⟩
  have lexed' := lexAll_eq_ok.mpr (lexes_layout legible')
  rw [Formula.ofTextWith, Formula.ofTextWith, lexed, lexed', same]

open Spaced in
/-- A variable that begins with `e` is separated from a preceding number by any single blank. -/
theorem lexAll_layout_exponent :
    let ps : List Spaced := [⟨[], .number 2⟩, ⟨['\u3000'], .var "e"⟩, ⟨[], .operator .add⟩, ⟨[], .number 3⟩]
    let others : List Spaced :=
      [⟨['\n'], .number 2⟩, ⟨[' '], .var "e"⟩, ⟨[' '], .operator .add⟩, ⟨[' '], .number 3⟩]
    Legible ps [' '] ∧ Legible others [] ∧ layout ps [' '] = "2\u3000e+3 ".toList ∧
      lexAll (layout ps [' ']) = .ok [.number 2, .var "e", .operator .add, .number 3] ∧
        Formula.ofText (layout others []) = Formula.ofText (layout ps [' ']) := by
  intro ps others
  have two : Writable (.number 2) := ⟨by decide +kernel, by decide +kernel⟩
  have three : Writable (.number 3) := ⟨by decide +kernel, by decide +kernel⟩
  have e : Writable (.var "e") := ⟨'e', [], rfl, rfl, nofun⟩
  have add : Writable (.operator .add) := trivial
  have blank : isBlank ' ' = true := by decide
  have newline : isBlank '\n' = true := by decide
  have wide : isBlank '\u3000' = true := by decide
  have legible : Legible ps [' '] :=
    ⟨by simp [ps, two, three, e, add], by simp [ps, wide], by simp [blank], by simp [ps, isOperand]⟩
  have legible' : Legible others [] :=
    ⟨by simp [others, two, three, e, add], by simp [others, blank, newline], nofun, by simp [others, isOperand]⟩
  exact ⟨legible, legible', by decide +kernel, (lexAll_layout legible).1,
    (lexAll_layout legible).2 others [] legible' rfl _ _⟩

end Token
end Worksheet
