import Worksheet.Proofs.Decimal.LetterCase
import Worksheet.Proofs.Formula.Lexing
import Worksheet.Proofs.Formula.Renaming

/-! Case independence of parsing. If normalization ignores case, texts that differ only in case parse to
the same formula. -/
namespace Worksheet
open Text

/-- The reason with quoted source text in lower case. Names and tokens are quoted after normalization and
remain unchanged. -/
def Malformed.lowered : Malformed → Malformed
  | token text => token (text.map Char.toLower)
  | outOfRange literal => outOfRange (literal.map Char.toLower)
  | reason => reason

theorem Malformed.lowered_lowered (reason : Malformed) : reason.lowered.lowered = reason.lowered := by
  cases reason with
  | token text => exact congrArg token (map_toLower_map_toLower text)
  | outOfRange literal => exact congrArg outOfRange (map_toLower_map_toLower literal)
  | variableName | empty | unmatchedRight | unmatchedLeft | operandExpected | operatorExpected | firstToken
  | lastToken | expression | other => rfl

namespace Token
variable (c : Char) (cs : List Char)

/-- A token and the rest, both in lower case. -/
def loweredCut : Token × List Char → Token × List Char :=
  Prod.map (renamed String.toLower) (List.map Char.toLower)

theorem lexNumber_map_toLower :
    lexNumber (cs.map Char.toLower) = ((lexNumber cs).map loweredCut).mapError Malformed.lowered := by
  simp only [lexNumber, Numeral.scan_map_toLower, Numeral.digits_lowered, Number.ofNumeral_lowered,
    Numeral.text_lowered_scan]
  split
  · rfl
  · split <;> rfl

theorem lex_map_toLower :
    lex c.toLower (cs.map Char.toLower) = ((lex c cs).map loweredCut).mapError Malformed.lowered := by
  have number := lexNumber_map_toLower (c :: cs)
  rw [List.map_cons] at number
  have left : c.toLower = '(' ↔ c = '(' := toLower_eq_iff (by decide)
  have right : c.toLower = ')' ↔ c = ')' := toLower_eq_iff (by decide)
  have point : c.toLower = '.' ↔ c = '.' := toLower_eq_iff (by decide)
  simp only [lex, ofSymbol?_toLower, left, right, point, isDigit_toLower, isAlpha_toLower, number,
    takeWhile_map_toLower _ isAlphanum_toLower, dropWhile_map_toLower _ isAlphanum_toLower]
  split
  · rfl
  split
  · rfl
  split
  · rfl
  split
  · rfl
  split
  · exact congrArg (fun name => Except.ok (var name, _)) (toLower_ofList (c :: cs.takeWhile Char.isAlphanum)).symm
  · rfl

/-- Lexing commutes with lower-casing. -/
theorem lexAll_map_toLower : lexAll (cs.map Char.toLower) =
    ((lexAll cs).map (List.map (renamed String.toLower))).mapError Malformed.lowered := by
  fun_induction lexAll cs with
  | case1 =>
    rw [List.map_nil, lexAll]
    rfl
  | case2 c cs blank ih =>
    rw [List.map_cons, lexAll, isBlank_toLower, if_pos blank, ih]
  | case3 c cs visible reason refused =>
    rw [← isBlank_toLower, Bool.not_eq_true] at visible
    refine lexAll_of_lex_eq_error visible ?_
    rw [lex_map_toLower, refused]
    rfl
  | case4 c cs visible t rest first shorter ih =>
    rw [← isBlank_toLower, Bool.not_eq_true] at visible
    have cut : lex c.toLower (cs.map Char.toLower) = .ok (loweredCut (t, rest)) := by
      rw [lex_map_toLower, first]
      rfl
    rw [List.map_cons, lexAll_of_lex visible cut]
    change (lexAll (rest.map Char.toLower)).map _ = _
    rw [ih]
    cases lexAll rest <;> rfl

end Token

namespace Formula
variable {normalize : String → String} {accepts : String → Bool} {cs ds : List Char}

theorem normalizeToken_renamed {rename : String → String} (absorbs : ∀ x, normalize (rename x) = normalize x)
    (t : Token) : normalizeToken normalize accepts (t.renamed rename) = normalizeToken normalize accepts t := by
  cases t with
  | var x => rw [Token.renamed, normalizeToken, normalizeToken, absorbs]
  | number _ | operator _ | left | right => rfl

section
variable (absorbs : ∀ x : String, normalize x.toLower = normalize x)
include absorbs

theorem ofTextWith_map_toLower (cs : List Char) :
    (ofTextWith normalize accepts (cs.map Char.toLower)).mapError Malformed.lowered =
      (ofTextWith normalize accepts cs).mapError Malformed.lowered := by
  rw [ofTextWith, ofTextWith, Token.lexAll_map_toLower]
  cases Token.lexAll cs with
  | error reason => exact congrArg Except.error reason.lowered_lowered
  | ok ts =>
    have same : (ts.map (Token.renamed String.toLower)).mapM (normalizeToken normalize accepts) =
        ts.mapM (normalizeToken normalize accepts) := by
      rw [List.mapM_map]
      exact congrArg (ts.mapM ·) (funext (normalizeToken_renamed absorbs))
    exact congrArg (fun x => (x >>= ofTokens).mapError Malformed.lowered) same

/-- Texts that differ only in case have the same parse, up to the case of quoted text. -/
theorem ofTextWith_sameLetters (accepts : String → Bool) (h : SameLetters cs ds) :
    (ofTextWith normalize accepts cs).mapError Malformed.lowered =
      (ofTextWith normalize accepts ds).mapError Malformed.lowered := by
  rw [← ofTextWith_map_toLower absorbs cs, h, ofTextWith_map_toLower absorbs ds]

end

end Formula
end Worksheet
