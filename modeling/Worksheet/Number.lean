import Worksheet.Decimal.Numeral
import Worksheet.Decimal.Positional
import Worksheet.Decimal.Shortest

/-! Conversion between numbers and text. -/
namespace Worksheet.Number

/-- The double nearest to a literal. -/
def ofNumeral (negative : Bool) (n : Numeral) : Float :=
  Binary64.toFloat negative n.value.pattern

/-- The words for infinity and for no number, in any ASCII case. -/
def word? (negative : Bool) (cs : List Char) : Option Float :=
  let word := cs.map Char.toLower
  if word = "inf".toList ∨ word = "infinity".toList then
    some (Binary64.toFloat negative Binary64.infinity)
  else if word = "nan".toList then some (0.0 / 0.0)
  else none

def unsigned? (negative : Bool) (cs : List Char) : Option Float :=
  let (n, rest) := Numeral.scan cs
  if n.digits ≠ [] ∧ rest = [] then some (ofNumeral negative n) else word? negative cs

/-- Parses a whole text as a number: an optional sign, then a literal or a word. -/
def ofText? (cs : List Char) : Option Float :=
  let (sign, rest) := Exponent.splitSign cs
  unsigned? (sign == some '-') rest

/-- The shortest text that parses to the number, in positional notation. -/
def text (x : Float) : List Char :=
  if x.isNaN then "NaN".toList
  else
    let sign := if Binary64.isNegative x then ['-'] else []
    if x.isInf then sign ++ "inf".toList
    else sign ++ (Binary64.shortest (Binary64.pattern x)).positional

end Worksheet.Number
