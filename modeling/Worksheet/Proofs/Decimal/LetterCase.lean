import Worksheet.Number
import Worksheet.Proofs.Decimal.Numeral
import Worksheet.Proofs.Text.LetterCase

/-! Case independence of numbers. The exponent mark and the letters of words are the only letters in
number text. -/
namespace Worksheet
open Text

namespace Exponent

def lowered (e : Exponent) : Exponent := ⟨e.mark.toLower, e.sign, e.digits⟩

theorem splitSign_map_toLower (cs : List Char) :
    splitSign (cs.map Char.toLower) = ((splitSign cs).1, (splitSign cs).2.map Char.toLower) := by
  unfold splitSign
  split
  · next rest whole =>
    obtain ⟨c, cs, rfl, sign, rfl⟩ := List.map_eq_cons_iff.mp whole
    rw [(toLower_eq_iff (by decide)).mp sign]
    rfl
  · next rest whole =>
    obtain ⟨c, cs, rfl, sign, rfl⟩ := List.map_eq_cons_iff.mp whole
    rw [(toLower_eq_iff (by decide)).mp sign]
    rfl
  · next plus minus =>
    split
    · exact absurd rfl (plus _)
    · exact absurd rfl (minus _)
    · rfl

theorem scan_map_toLower (cs : List Char) :
    scan (cs.map Char.toLower) = ((scan cs).1.map lowered, (scan cs).2.map Char.toLower) := by
  cases cs with
  | nil => rfl
  | cons mark rest =>
    simp only [scan, List.map_cons, splitSign_map_toLower, takeWhile_isDigit_map_toLower,
      isExponentMark_toLower, dropWhile_map_toLower _ isDigit_toLower]
    split <;> rfl

end Exponent

namespace Numeral
variable (cs : List Char) (n : Numeral)

/-- The literal with its exponent mark in lower case. -/
def lowered : Numeral := ⟨n.whole, n.fraction, n.exponent.map Exponent.lowered⟩

theorem digits_lowered : n.lowered.digits = n.digits := rfl

theorem value_lowered : n.lowered.value = n.value := by
  rw [value, value, lowered, Option.map_map]
  rfl

theorem scanFraction_map_toLower :
    scanFraction (cs.map Char.toLower) = ((scanFraction cs).1, (scanFraction cs).2.map Char.toLower) := by
  unfold scanFraction
  split
  · next rest whole =>
    obtain ⟨c, cs, rfl, point, rfl⟩ := List.map_eq_cons_iff.mp whole
    rw [takeWhile_isDigit_map_toLower, dropWhile_map_toLower _ isDigit_toLower,
      (toLower_eq_iff (by decide)).mp point]
    rfl
  · next none =>
    split
    · exact absurd rfl (none _)
    · rfl

theorem scan_map_toLower :
    scan (cs.map Char.toLower) = ((scan cs).1.lowered, (scan cs).2.map Char.toLower) := by
  simp only [scan, takeWhile_isDigit_map_toLower, dropWhile_map_toLower _ isDigit_toLower,
    scanFraction_map_toLower]
  split
  · rfl
  · simp only [Exponent.scan_map_toLower]
    rfl

theorem text_lowered_scan : (scan cs).1.lowered.text = (scan cs).1.text.map Char.toLower := by
  refine (List.append_left_inj ((scan cs).2.map Char.toLower)).mp ?_
  rw [← List.map_append, scan_append, text_append_of_scan (scan_map_toLower cs)]

end Numeral

namespace Number
variable (negative : Bool) (cs : List Char)

theorem ofNumeral_lowered (n : Numeral) : ofNumeral negative n.lowered = ofNumeral negative n := by
  rw [ofNumeral, n.value_lowered, ofNumeral]

theorem unsigned?_map_toLower : unsigned? negative (cs.map Char.toLower) = unsigned? negative cs := by
  have words : word? negative (cs.map Char.toLower) = word? negative cs := by
    rw [word?, word?, map_toLower_map_toLower]
  simp only [unsigned?, Numeral.scan_map_toLower, Numeral.digits_lowered, List.map_eq_nil_iff,
    ofNumeral_lowered, words]

/-- Parsing a number does not depend on letter case. -/
theorem ofText?_map_toLower : ofText? (cs.map Char.toLower) = ofText? cs := by
  simp only [ofText?, Exponent.splitSign_map_toLower, unsigned?_map_toLower]

end Number
end Worksheet
