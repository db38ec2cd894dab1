import Worksheet.Proofs.Formula.Lexeme
import Worksheet.Proofs.Formula.Lexing
import Worksheet.Proofs.Number

/-! Longest-match lexing. A text is split into the longest matches of the lexical grammar with blanks
between them, up to its end or up to the first position without a token. -/
namespace Worksheet
open Text

namespace Lexeme
variable {t : Token} {reason : Malformed} {c : Char} {cs slice text rest : List Char} {n : Numeral}

/-- The token and the longest match that denotes it, at the head of a text. -/
inductive Cuts : Token → List Char → List Char → Prop
  | operator (op : Operator) (rest : List Char) : Cuts (.operator op) [op.symbol] (op.symbol :: rest)
  | left (rest : List Char) : Cuts .left ['('] ('(' :: rest)
  | right (rest : List Char) : Cuts .right [')'] (')' :: rest)
  | number {slice text : List Char} {x : Float} (longest : IsLongest number slice text)
      (value : Number.ofText? slice = some x) (finite : x.isFinite = true) : Cuts (.number x) slice text
  | word {slice text : List Char} (longest : IsLongest word slice text) :
      Cuts (.var (String.ofList slice)) slice text

/-- The fault at a position where no token can be read. -/
inductive Refused : List Char → Malformed → Prop
  | unknown {c : Char} {cs : List Char} (visible : isBlank c = false)
      (none : ∀ slice, slice <+: c :: cs → slice ∉ symbol + number + word) : Refused (c :: cs) (.token [c])
  | outOfRange {slice text : List Char} {x : Float} (longest : IsLongest number slice text)
      (value : Number.ofText? slice = some x) (infinite : x.isFinite = false) : Refused text (.outOfRange slice)

theorem cuts_of_begins (h : Token.Begins t text rest) : ∃ slice, text = slice ++ rest ∧ Cuts t slice text := by
  cases h with
  | operator op => exact ⟨_, rfl, .operator op rest⟩
  | left => exact ⟨_, rfl, .left rest⟩
  | right => exact ⟨_, rfl, .right rest⟩
  | @number _ _ n cut some finite =>
    have value := Number.ofText?_literal (Numeral.wellFormed_of_scan cut some)
    exact ⟨n.text, (Numeral.text_append_of_scan cut).symm, .number (isLongest_of_scan cut some) value finite⟩
  | @var c body _ first others stop =>
    have longest : IsLongest word (c :: body) (c :: body ++ rest) :=
      isLongest_word_iff.mpr ⟨mem_word.mpr ⟨c, body, rfl, first, others⟩, stop⟩
    exact ⟨c :: body, rfl, .word longest⟩

theorem begins_of_cuts (h : Cuts t slice (slice ++ rest)) : Token.Begins t (slice ++ rest) rest := by
  generalize whole : slice ++ rest = text at h
  cases h with
  | operator op =>
    cases whole
    exact .operator op rest
  | left =>
    cases whole
    exact .left rest
  | right =>
    cases whole
    exact .right rest
  | @number _ _ x longest value finite =>
    obtain ⟨n, tail, cut, some, rfl⟩ := isLongest_number_iff.mp longest
    rw [Number.ofText?_literal (Numeral.wellFormed_of_scan cut some)] at value
    obtain rfl := Option.some.inj value
    obtain rfl : tail = rest := List.append_cancel_left ((Numeral.text_append_of_scan cut).trans whole.symm)
    exact .number cut some finite
  | word longest =>
    subst whole
    obtain ⟨mem, stop⟩ := isLongest_word_iff.mp longest
    obtain ⟨c, body, rfl, first, others⟩ := mem_word.mp mem
    exact .var first others stop

theorem mem_of_cuts (h : Cuts t slice text) : slice ∈ symbol + number + word ∧ slice <+: text := by
  cases h with
  | operator op =>
    have choice : [op.symbol] ∈ symbol := by
      refine mem_oneOf.mpr ⟨op.symbol, ?_, rfl⟩
      cases op <;> decide
    exact ⟨.inl (.inl choice), List.prefix_append _ _⟩
  | left | right => exact ⟨.inl (.inl (mem_oneOf.mpr ⟨_, by decide, rfl⟩)), List.prefix_append _ _⟩
  | number longest => exact ⟨.inl (.inr longest.mem), longest.head⟩
  | word longest => exact ⟨.inr longest.mem, longest.head⟩

theorem head_of_number (mem : slice ∈ number) (head : slice <+: c :: cs) : c.isDigit = true ∨ c = '.' :=
  Numeral.head_of_scan rfl (digits_of_scan rfl mem head)

theorem head_of_word (mem : slice ∈ word) (head : slice <+: c :: cs) : c.isAlpha = true := by
  obtain ⟨first, body, rfl, alpha, _⟩ := mem_word.mp mem
  rwa [← (List.cons_prefix_cons.mp head).1]

theorem head_of_symbol (mem : slice ∈ symbol) (head : slice <+: c :: cs) :
    Operator.ofSymbol? c ≠ none ∨ c = '(' ∨ c = ')' := by
  obtain ⟨first, choice, rfl⟩ := mem_oneOf.mp mem
  obtain rfl := (List.cons_prefix_cons.mp head).1
  have table : ∀ d ∈ ['+', '-', '*', '/', '(', ')'], Operator.ofSymbol? d ≠ none ∨ d = '(' ∨ d = ')' := by
    simp [Operator.ofSymbol?]
  exact table first choice

theorem not_mem_of_head (start : c.isDigit = true ∨ c = '.') (head : slice <+: c :: cs) :
    slice ∉ symbol ∧ slice ∉ word := by
  rcases start with digit | rfl
  · have plain := isPlain_of_isAlphanum (isAlphanum_of_isDigit digit)
    constructor
    · intro mem
      rcases head_of_symbol mem head with operator | left | right
      · exact operator plain.noSymbol
      · exact plain.noParenthesis.1 left
      · exact plain.noParenthesis.2 right
    · exact fun mem => by cases (isDigit_of_isAlpha (head_of_word mem head)).symm.trans digit
  · constructor
    · exact fun mem => absurd (head_of_symbol mem head) (by decide)
    · exact fun mem => nomatch head_of_word mem head

theorem text_of_digits_eq_nil (start : c.isDigit = true ∨ c = '.') (cut : Numeral.scan (c :: cs) = (n, rest))
    (empty : n.digits = []) : n.text = [c] := by
  rcases start with digit | rfl
  · have single : [c] ∈ number := mem_number.mpr ⟨⟨[c], none, none⟩, ⟨by simpa, nofun, nofun, nofun⟩, rfl⟩
    exact absurd empty (digits_of_scan cut single ⟨cs, rfl⟩)
  · obtain rfl : (Numeral.scan ('.' :: cs)).1 = n := congrArg Prod.fst cut
    by_cases noDigits : cs.takeWhile Char.isDigit = []
    · simp [Numeral.scan, Numeral.scanFraction, noDigits, Numeral.text, Numeral.pointText]
    · simp [Numeral.scan, Numeral.scanFraction, noDigits, Numeral.digits] at empty

theorem refused_of_lexNumber (start : c.isDigit = true ∨ c = '.')
    (h : Token.lexNumber (c :: cs) = .error reason) : Refused (c :: cs) reason := by
  rw [Token.lexNumber] at h
  rcases cut : Numeral.scan (c :: cs) with ⟨n, rest⟩
  rw [cut] at h
  dsimp only at h
  split at h
  · next empty =>
    cases h
    rw [text_of_digits_eq_nil start cut empty]
    refine .unknown (Token.visible_of_head start) fun slice head => ?_
    rintro ((mem | mem) | mem)
    · exact (not_mem_of_head start head).1 mem
    · exact digits_of_scan cut mem head empty
    · exact (not_mem_of_head start head).2 mem
  next some =>
  split at h
  · cases h
  · next infinite =>
    cases h
    have value := Number.ofText?_literal (Numeral.wellFormed_of_scan cut some)
    exact .outOfRange (isLongest_of_scan cut some) value (Bool.eq_false_iff.mpr infinite)

theorem refused_of_lex (visible : isBlank c = false) (h : Token.lex c cs = .error reason) :
    Refused (c :: cs) reason := by
  by_cases start : c.isDigit = true ∨ c = '.'
  · exact refused_of_lexNumber start (Token.lex_of_head start ▸ h)
  rw [Token.lex, if_neg start] at h
  split at h
  · cases h
  next noOperator =>
  split at h
  · cases h
  next noLeft =>
  split at h
  · cases h
  next noRight =>
  split at h
  · cases h
  next noWord =>
  cases h
  refine .unknown visible fun slice head => ?_
  rintro ((mem | mem) | mem)
  · rcases head_of_symbol mem head with operator | left | right
    · exact operator noOperator
    · exact noLeft left
    · exact noRight right
  · exact start (head_of_number mem head)
  · exact noWord (head_of_word mem head)

theorem Refused.exists_cons (h : Refused text reason) : ∃ c body, text = c :: body ∧ isBlank c = false := by
  cases h with
  | unknown visible => exact ⟨_, _, rfl, visible⟩
  | outOfRange longest =>
    obtain ⟨n, rest, cut, some, -⟩ := isLongest_number_iff.mp longest
    obtain ⟨c, body, rfl⟩ : ∃ c body, text = c :: body := by
      cases text with
      | nil =>
        cases cut
        exact absurd rfl some
      | cons c body => exact ⟨c, body, rfl⟩
    exact ⟨c, body, rfl, Token.visible_of_head (Numeral.head_of_scan cut some)⟩

theorem Refused.lex_eq_error (h : Refused (c :: cs) reason) : Token.lex c cs = .error reason := by
  generalize whole : c :: cs = text at h
  cases h with
  | unknown visible none =>
    cases whole
    cases first : Token.lex c cs with
    | ok cut =>
      obtain ⟨slice, _, cuts⟩ := cuts_of_begins (Token.begins_of_lex first)
      exact absurd (mem_of_cuts cuts).1 (none slice (mem_of_cuts cuts).2)
    | error other =>
      cases refused_of_lex visible first with
      | unknown => rfl
      | outOfRange longest => exact absurd (.inl (.inr longest.mem)) (none _ longest.head)
  | @outOfRange slice _ x longest value infinite =>
    subst whole
    obtain ⟨n, rest, cut, some, rfl⟩ := isLongest_number_iff.mp longest
    rw [Number.ofText?_literal (Numeral.wellFormed_of_scan cut some)] at value
    obtain rfl := Option.some.inj value
    rw [Token.lex_of_head (head_of_number longest.mem longest.head), Token.lexNumber, cut]
    dsimp only
    rw [if_neg some, if_neg (Bool.eq_false_iff.mp infinite)]

end Lexeme

/-- A slice that denotes a token, with the blanks before it. -/
structure Piece where
  blanks : List Char
  slice : List Char
  token : Token

namespace Piece

def text (p : Piece) : List Char := p.blanks ++ p.slice

/-- Every piece is the longest match at its position. -/
def Scanned : List Piece → List Char → Prop
  | [], _ => True
  | p :: ps, rest => (∀ c ∈ p.blanks, isBlank c = true) ∧
      Lexeme.Cuts p.token p.slice (p.slice ++ (ps.flatMap text ++ rest)) ∧ Scanned ps rest

end Piece

namespace Token
variable {cs rest blanks : List Char} {ps : List Piece} {ts : List Token} {reason : Malformed}
open Lexeme

theorem lexAll_blanks (h : ∀ c ∈ blanks, isBlank c = true) (rest : List Char) :
    lexAll (blanks ++ rest) = lexAll rest := by
  induction blanks with
  | nil => rfl
  | cons c blanks ih =>
    obtain ⟨blank, others⟩ := List.forall_mem_cons.mp h
    rw [List.cons_append, lexAll, if_pos blank, ih others]

theorem lexAll_refused (h : Refused cs reason) : lexAll cs = .error reason := by
  obtain ⟨c, body, rfl, visible⟩ := h.exists_cons
  exact lexAll_of_lex_eq_error visible h.lex_eq_error

/-- Lexing processes the pieces independently of the text after them. -/
theorem lexAll_scanned (h : Piece.Scanned ps rest) :
    lexAll (ps.flatMap Piece.text ++ rest) = (lexAll rest).map (ps.map Piece.token ++ ·) := by
  induction ps with
  | nil =>
    rw [List.flatMap_nil, List.nil_append, List.map_nil]
    cases lexAll rest <;> rfl
  | cons p ps ih =>
    obtain ⟨blank, cuts, others⟩ := h
    rw [List.flatMap_cons, Piece.text, List.append_assoc, List.append_assoc, lexAll_blanks blank,
      lexAll_of_begins (begins_of_cuts cuts), ih others]
    cases lexAll rest <;> rfl

theorem lexAll_eq_tokens (scanned : Piece.Scanned ps blanks) (blank : ∀ c ∈ blanks, isBlank c = true) :
    lexAll (ps.flatMap Piece.text ++ blanks) = .ok (ps.map Piece.token) := by
  have used := lexAll_blanks blank []
  rw [List.append_nil, lexAll] at used
  rw [lexAll_scanned scanned, used]
  exact congrArg Except.ok (List.append_nil _)

theorem lexAll_eq_fault (scanned : Piece.Scanned ps (blanks ++ rest)) (blank : ∀ c ∈ blanks, isBlank c = true)
    (refused : Refused rest reason) : lexAll (ps.flatMap Piece.text ++ (blanks ++ rest)) = .error reason := by
  rw [lexAll_scanned scanned, lexAll_blanks blank, lexAll_refused refused]
  rfl

theorem exists_scanned (cs : List Char) : ∃ ps blanks rest, cs = ps.flatMap Piece.text ++ (blanks ++ rest) ∧
    Piece.Scanned ps (blanks ++ rest) ∧ (∀ c ∈ blanks, isBlank c = true) ∧
      (rest = [] ∨ ∃ reason, Refused rest reason) := by
  fun_induction lexAll cs with
  | case1 => exact ⟨[], [], [], rfl, trivial, List.forall_mem_nil _, .inl rfl⟩
  | case2 c cs blank ih =>
    obtain ⟨ps, blanks, rest, rfl, scanned, others, last⟩ := ih
    cases ps with
    | nil => exact ⟨[], c :: blanks, rest, rfl, trivial, List.forall_mem_cons.mpr ⟨blank, others⟩, last⟩
    | cons p ps =>
      obtain ⟨before, cuts, scanned⟩ := scanned
      exact ⟨⟨c :: p.blanks, p.slice, p.token⟩ :: ps, blanks, rest, rfl,
        ⟨List.forall_mem_cons.mpr ⟨blank, before⟩, cuts, scanned⟩, others, last⟩
  | case3 c cs visible reason refused =>
    exact ⟨[], [], c :: cs, rfl, trivial, List.forall_mem_nil _,
      .inr ⟨reason, refused_of_lex (Bool.eq_false_iff.mpr visible) refused⟩⟩
  | case4 c cs visible t rest first shorter ih =>
    obtain ⟨ps, blanks, tail, rfl, scanned, blank, last⟩ := ih
    obtain ⟨slice, whole, cuts⟩ := cuts_of_begins (begins_of_lex first)
    refine ⟨⟨[], slice, t⟩ :: ps, blanks, tail, ?_, ⟨List.forall_mem_nil _, whole ▸ cuts, scanned⟩, blank, last⟩
    simp [whole, Piece.text]

/-- Exact specification of lexing. The text is split into longest matches; if they cover the text, the
result is the list of their tokens, and otherwise it is the fault at the first position without a token
or with a literal out of range. Every literal of the grammar has a numeric value. -/
theorem lexAll_longest_match (cs : List Char) :
    (∀ ts, lexAll cs = .ok ts ↔ ∃ ps blanks, cs = ps.flatMap Piece.text ++ blanks ∧
      Piece.Scanned ps blanks ∧ (∀ c ∈ blanks, isBlank c = true) ∧ ps.map Piece.token = ts) ∧
    (∀ reason, lexAll cs = .error reason ↔ ∃ ps blanks rest, cs = ps.flatMap Piece.text ++ (blanks ++ rest) ∧
      Piece.Scanned ps (blanks ++ rest) ∧ (∀ c ∈ blanks, isBlank c = true) ∧ Refused rest reason) ∧
    ∀ slice ∈ Lexeme.number, ∃ x, Number.ofText? slice = some x := by
  obtain ⟨ps, blanks, rest, rfl, scanned, blank, last⟩ := exists_scanned cs
  refine ⟨fun ts => ⟨fun h => ?_, ?_⟩, fun reason => ⟨fun h => ?_, ?_⟩, fun slice mem => ?_⟩
  · rcases last with rfl | ⟨reason, refused⟩
    · rw [List.append_nil] at scanned h ⊢
      exact ⟨ps, blanks, rfl, scanned, blank, Except.ok.inj ((lexAll_eq_tokens scanned blank).symm.trans h)⟩
    · cases h.symm.trans (lexAll_eq_fault scanned blank refused)
  · rintro ⟨ps, blanks, whole, scanned, blank, rfl⟩
    rw [whole, lexAll_eq_tokens scanned blank]
  · rcases last with rfl | ⟨other, refused⟩
    · rw [List.append_nil] at scanned h
      cases h.symm.trans (lexAll_eq_tokens scanned blank)
    · obtain rfl := Except.error.inj (h.symm.trans (lexAll_eq_fault scanned blank refused))
      exact ⟨ps, blanks, rest, rfl, scanned, blank, refused⟩
  · rintro ⟨ps, blanks, rest, whole, scanned, blank, refused⟩
    rw [whole, lexAll_eq_fault scanned blank refused]
  · obtain ⟨n, h, rfl⟩ := mem_number.mp mem
    exact ⟨_, Number.ofText?_literal h⟩

/-- An exponent without digits is not part of a literal, and a second point begins a new literal. -/
theorem lexAll_longest_match_exponent :
    (∃ ps blanks, "1.e5 2e+1.5".toList = ps.flatMap Piece.text ++ blanks ∧ Piece.Scanned ps blanks ∧
      (∀ c ∈ blanks, isBlank c = true) ∧ ps.map Piece.token = [.number 100000, .number 20, .number 0.5]) ∧
    (∃ ps blanks rest, "2e+ .e5".toList = ps.flatMap Piece.text ++ (blanks ++ rest) ∧
      Piece.Scanned ps (blanks ++ rest) ∧ (∀ c ∈ blanks, isBlank c = true) ∧ Refused rest (.token ['.'])) ∧
    "1.e5".toList ∈ Lexeme.number ∧ ∃ x, Number.ofText? "1.e5".toList = some x := by
  have taken : lexAll "1.e5 2e+1.5".toList = .ok [.number 100000, .number 20, .number 0.5] := by decide +kernel
  have refused : lexAll "2e+ .e5".toList = .error (.token ['.']) := by decide +kernel
  have cut : Numeral.scan "1.e5".toList = (⟨['1'], some [], some ⟨'e', none, ['5']⟩⟩, []) := rfl
  have literal : "1.e5".toList ∈ Lexeme.number := (isLongest_of_scan cut nofun).mem
  exact ⟨((lexAll_longest_match _).1 _).mp taken, ((lexAll_longest_match _).2.1 _).mp refused, literal,
    (lexAll_longest_match []).2.2 _ literal⟩

end Token
end Worksheet
