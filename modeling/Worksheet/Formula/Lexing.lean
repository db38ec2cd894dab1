import Worksheet.Formula.Fault
import Worksheet.Text.Blank

/-! Lexical analysis of formula text. Each step removes the longest token at the head, so the rest is
shorter. -/
namespace Worksheet.Token

def lexNumber (cs : List Char) : Except Malformed (Token × List Char) :=
  let (literal, rest) := Numeral.scan cs
  if literal.digits = [] then .error (.token literal.text)
  else
    let value := Number.ofNumeral false literal
    if value.isFinite then .ok (.number value, rest) else .error (.outOfRange literal.text)

/-- The token that begins with `c` and continues in `cs`, and the rest. -/
def lex (c : Char) (cs : List Char) : Except Malformed (Token × List Char) :=
  match Operator.ofSymbol? c with
  | some op => .ok (.operator op, cs)
  | none =>
    if c = '(' then .ok (.left, cs)
    else if c = ')' then .ok (.right, cs)
    else if c.isDigit ∨ c = '.' then lexNumber (c :: cs)
    else if c.isAlpha then
      .ok (.var (String.ofList (c :: cs.takeWhile Char.isAlphanum)), cs.dropWhile Char.isAlphanum)
    else .error (.token [c])

private theorem lexNumber_length {cs rest : List Char} {t : Token}
    (h : lexNumber cs = .ok (t, rest)) : rest.length < cs.length := by
  have cut := congrArg List.length (Numeral.scan_append cs)
  simp only [lexNumber] at h
  split at h
  · cases h
  · next digits =>
    have text := List.length_pos_iff.mpr (Numeral.text_ne_nil digits)
    split at h <;> cases h
    simp only [List.length_append] at cut
    omega

theorem lex_length {c : Char} {cs rest : List Char} {t : Token}
    (h : lex c cs = .ok (t, rest)) : rest.length ≤ cs.length := by
  unfold lex at h
  split at h
  · cases h; exact Nat.le_refl _
  · split at h
    · cases h; exact Nat.le_refl _
    · split at h
      · cases h; exact Nat.le_refl _
      · split at h
        · exact Nat.le_of_lt_succ (lexNumber_length h)
        · split at h
          · cases h; exact (List.dropWhile_sublist _).length_le
          · cases h

/-- The tokens of a text, with blanks removed, or the first lexical fault from the left. -/
def lexAll : List Char → Except Malformed (List Token)
  | [] => .ok []
  | c :: cs =>
    if Text.isBlank c then lexAll cs
    else match h : lex c cs with
      | .error reason => .error reason
      | .ok (t, rest) =>
        have := lex_length h
        (lexAll rest).map (t :: ·)
termination_by cs => cs.length

end Worksheet.Token
