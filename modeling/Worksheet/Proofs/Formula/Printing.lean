import Worksheet.Proofs.Formula.Grammar
import Worksheet.Proofs.Formula.Spacing

/-! Printing and parsing. The text of a formula lexes to its tokens, since the token after an operand
begins with a character that cannot extend it. -/
namespace Worksheet
open Text

namespace Token
variable {t : Token} {ts : List Token} {c : Char} {cs rest : List Char} {x : Float}

theorem Closes.isChain {depth : Nat} {ts : List Token} (h : Closes depth ts) :
    ts.IsChain fun t next => next.comesAfterOperand = t.endsOperand := by
  induction ts generalizing depth with
  | nil => exact .nil
  | cons t ts ih =>
    cases ts with
    | nil => exact .singleton t
    | cons next ts =>
      obtain ⟨inner, _, pair, closes⟩ := closes_cons.mp h
      exact .cons_cons pair (ih closes)

/-- In a formula, the token after `t` is an operator or a closing parenthesis exactly if `t` ends an
operand. -/
theorem isChain_of_checkShape {ts : List Token} (h : checkShape ts = .ok ()) :
    ts.IsChain fun t next => next.comesAfterOperand = t.endsOperand := by
  cases ts with
  | nil => exact .nil
  | cons t ts => exact (checkShape_eq_ok.mp h).2.isChain

theorem Lexes.ofText?_trim (h : Lexes cs [.number x]) : Number.ofText? (trim cs) = some x ∧ x.isFinite = true := by
  obtain ⟨pre, body, rest, rfl, hpre, begins, others⟩ := h.exists_begins
  cases begins with
  | @number _ _ n cut some finite =>
    have wellFormed := Numeral.wellFormed_of_scan cut some
    rw [← Numeral.text_append_of_scan cut, trim_append hpre (Numeral.visible_text wellFormed) others.isBlank]
    exact ⟨Number.ofText?_literal wellFormed, finite⟩

theorem Lexes.head_ne_symbol (h : Lexes cs ts) (shape : checkShape ts = .ok ()) (op : Operator) :
    op.symbol ∉ cs.head? := by
  intro head
  obtain ⟨body, rfl⟩ := List.head?_eq_some_iff.mp head
  have first := lexAll_of_begins (.operator op body)
  rw [lexAll_eq_ok.mpr h] at first
  cases others : lexAll body <;> rw [others] at first <;> cases first
  cases (checkShape_eq_ok.mp shape).1

/-- If the text of a formula parses as a number, the formula is this single number. -/
theorem Lexes.eq_number (h : Lexes cs ts) (shape : checkShape ts = .ok ()) (number : Number.ofText? cs = some x)
    (finite : x.isFinite = true) : ts = [.number x] := by
  have unsigned : Number.ofText? cs = Number.unsigned? false cs := by
    refine Number.ofText?_of_head fun c hc => ⟨?_, ?_⟩
    · rintro rfl
      exact h.head_ne_symbol shape .add hc
    · rintro rfl
      exact h.head_ne_symbol shape .subtract hc
  obtain ⟨n, cut, some, rfl⟩ := Number.exists_scan_of_unsigned? (unsigned ▸ number) finite
  exact Except.ok.inj <| calc
    .ok ts = lexAll cs := (lexAll_eq_ok.mpr h).symm
    _ = .ok [.number (Number.ofNumeral false n)] := lexAll_eq_ok.mpr (.token (.number cut some finite) .nil)

end Token

namespace Formula
variable {f : Formula} {normalize : String → String} {accepts : String → Bool} {cs : List Char}

theorem lexAll_text (writable : ∀ t ∈ f.tokens, t.Writable) : Token.lexAll f.text = .ok f.tokens := by
  have legible : Token.Spaced.Legible (f.tokens.map fun t => ⟨[], t⟩) [] := by
    refine ⟨by simpa using writable, by simp, nofun, (List.isChain_map _).mpr ?_⟩
    refine (Token.isChain_of_checkShape f.shape).imp fun t next pair operand other => ?_
    exact absurd pair (Token.ne_of_isOperand operand other)
  have whole := Token.lexAll_eq_ok.mpr (Token.lexes_layout legible)
  simpa [Token.Spaced.layout, Token.Spaced.text, text, List.flatMap_map, Function.comp_def] using whole

theorem ofTextWith_text_of_writable (writable : ∀ t ∈ f.tokens, t.Writable)
    (fixed : ∀ name ∈ f.variableNames, normalize name = name ∧ accepts name = true) :
    ofTextWith normalize accepts f.text = .ok f := by
  have lexed := lexAll_text writable
  refine (ofTextWith_eq_ok fun ts hts t ht => ?_).mpr lexed
  obtain rfl := Except.ok.inj (lexed.symm.trans hts)
  cases t with
  | var name =>
    obtain ⟨same, accepted⟩ := fixed name (mem_variableNames.mpr ht)
    rw [normalizeToken, same, if_pos accepted]
  | number _ | operator _ | left | right => rfl

theorem visible_text (writable : ∀ t ∈ f.tokens, t.Writable) : ∀ c ∈ f.text, isBlank c = false := by
  intro c hc
  obtain ⟨t, ht, hc⟩ := List.mem_flatMap.mp hc
  exact Token.visible_text (writable t ht) c hc

theorem lexAll_of_tokens_eq_number {x : Float} (h : ofTextWith normalize accepts cs = .ok f)
    (single : f.tokens = [.number x]) : Token.lexAll cs = .ok [.number x] := by
  rw [ofTextWith] at h
  obtain ⟨ts, lexed, h⟩ := Outcome.bind_eq_ok.mp h
  obtain ⟨normalized, hm, h⟩ := Outcome.bind_eq_ok.mp h
  rw [← ofTokens_tokens h, single] at hm
  obtain ⟨read, rfl, kept⟩ := Outcome.exists_of_mapM_eq_singleton hm
  rcases normalizeToken_cases kept with ⟨_, _, var⟩ | ⟨rfl, _⟩
  · cases var
  · exact lexed

theorem exists_normalize_eq (h : ofTextWith normalize accepts cs = .ok f) {name : String}
    (hn : name ∈ f.variableNames) : ∃ given, name = normalize given ∧ accepts (normalize given) = true := by
  obtain ⟨_, _, _, _, kept⟩ := exists_of_mem_tokens h (mem_variableNames.mp hn)
  rcases normalizeToken_cases kept with ⟨given, accepted, same⟩ | ⟨_, none⟩
  · cases same
    exact ⟨given, rfl, accepted⟩
  · cases none

section
variable (words : ∀ name ∈ f.variableNames, Token.IsWord name.toList)
include words

theorem writable_of_ofTextWith (h : ofTextWith normalize accepts cs = .ok f) : ∀ t ∈ f.tokens, t.Writable := by
  intro t ht
  obtain ⟨ts, lexed, read, hr, kept⟩ := exists_of_mem_tokens h ht
  rcases normalizeToken_cases kept with ⟨name, _, rfl⟩ | ⟨rfl, _⟩
  · exact words _ (mem_variableNames.mpr ht)
  · exact (Token.lexAll_eq_ok.mp lexed).writable t hr

/-- A parsed formula is recovered from its text if its names are fixed by normalization. -/
theorem ofTextWith_text (fixed : ∀ name ∈ f.variableNames, normalize name = name)
    (h : ofTextWith normalize accepts cs = .ok f) : ofTextWith normalize accepts f.text = .ok f :=
  ofTextWith_text_of_writable (writable_of_ofTextWith words h)
    fun name hn => ⟨fixed name hn, ofTextWith_accepts h name hn⟩

end

theorem isWord_of_ofText (h : ofText cs = .ok f) : ∀ name ∈ f.variableNames, Token.IsWord name.toList :=
  fun _ hn => (Token.lexAll_eq_ok.mp (ofText_eq_ok.mp h)).writable _ (mem_variableNames.mp hn)

end Formula
end Worksheet
