import Worksheet.Decimal.Basic

/-! Unsigned decimal literals: digits with at most one point, and an exponent that requires at least one
digit. A literal retains its text, so `scan` splits its input exactly. -/
namespace Worksheet

/-- An exponent part such as `e-07`. -/
structure Exponent where
  mark : Char
  sign : Option Char
  digits : List Char
  deriving DecidableEq, Repr

/-- A literal such as `2.50e9`; `fraction` is `none` in the absence of a point. -/
structure Numeral where
  whole : List Char
  fraction : Option (List Char)
  exponent : Option Exponent
  deriving DecidableEq, Repr

namespace Exponent

def text (e : Exponent) : List Char := e.mark :: e.sign.toList ++ e.digits

def value (e : Exponent) : Int :=
  let size : Int := Nat.ofDigitChars 10 e.digits 0
  if e.sign = some '-' then -size else size

/-- An optional sign at the head of a text, and the rest. -/
def splitSign : List Char → Option Char × List Char
  | '+' :: cs => (some '+', cs)
  | '-' :: cs => (some '-', cs)
  | cs => (none, cs)

/-- The exponent at the head of a text, if it has at least one digit, and the rest. -/
def scan (cs : List Char) : Option Exponent × List Char :=
  match cs with
  | [] => (none, [])
  | mark :: rest =>
    let (sign, rest) := splitSign rest
    let digits := rest.takeWhile Char.isDigit
    if (mark = 'e' ∨ mark = 'E') ∧ digits ≠ [] then
      (some ⟨mark, sign, digits⟩, rest.dropWhile Char.isDigit)
    else (none, cs)

theorem splitSign_append (cs : List Char) :
    (splitSign cs).1.toList ++ (splitSign cs).2 = cs := by
  unfold splitSign
  split <;> rfl

theorem scan_append (cs : List Char) :
    ((scan cs).1.map text).getD [] ++ (scan cs).2 = cs := by
  cases cs with
  | nil => rfl
  | cons mark rest =>
    simp only [scan]
    split
    · simp [text, splitSign_append]
    · rfl

end Exponent

namespace Numeral

def pointText : Option (List Char) → List Char
  | some digits => '.' :: digits
  | none => []

def text (n : Numeral) : List Char :=
  n.whole ++ pointText n.fraction ++ (n.exponent.map Exponent.text).getD []

/-- The digits before the exponent. -/
def digits (n : Numeral) : List Char := n.whole ++ n.fraction.getD []

def value (n : Numeral) : Decimal where
  coefficient := Nat.ofDigitChars 10 n.digits 0
  exponent := (n.exponent.map Exponent.value).getD 0 - (n.fraction.getD []).length

def scanFraction : List Char → Option (List Char) × List Char
  | '.' :: cs => (some (cs.takeWhile Char.isDigit), cs.dropWhile Char.isDigit)
  | cs => (none, cs)

/-- The longest literal at the head of a text, and the rest. Without digits in front of it, an exponent
is not scanned. -/
def scan (cs : List Char) : Numeral × List Char :=
  let whole := cs.takeWhile Char.isDigit
  let (fraction, rest) := scanFraction (cs.dropWhile Char.isDigit)
  if whole ++ fraction.getD [] = [] then (⟨whole, fraction, none⟩, rest)
  else
    let (exponent, rest) := Exponent.scan rest
    (⟨whole, fraction, exponent⟩, rest)

theorem scanFraction_append (cs : List Char) :
    pointText (scanFraction cs).1 ++ (scanFraction cs).2 = cs := by
  fun_cases scanFraction cs <;> simp [pointText]

/-- Scanning splits the input into the text of the literal and the rest. -/
theorem scan_append (cs : List Char) : (scan cs).1.text ++ (scan cs).2 = cs := by
  have fraction := scanFraction_append (cs.dropWhile Char.isDigit)
  simp only [scan]
  split
  · simp [text, fraction]
  · have exponent := Exponent.scan_append (scanFraction (cs.dropWhile Char.isDigit)).2
    simp [text, exponent, fraction]

theorem text_ne_nil {n : Numeral} (h : n.digits ≠ []) : n.text ≠ [] := by
  intro empty
  simp only [text, List.append_eq_nil_iff] at empty
  obtain ⟨⟨whole, point⟩, -⟩ := empty
  cases hf : n.fraction <;> simp_all [digits, pointText]

end Numeral
end Worksheet
