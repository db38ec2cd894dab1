import Worksheet.Formula.Lexing
import Worksheet.Formula.Shape
import Std.Data.ExtTreeSet

/-! Formulas: token sequences that satisfy the shape check, over normalized variables. -/
namespace Worksheet

/-- Sets of names, ordered by code points. -/
abbrev NameSet := Std.ExtTreeSet String

structure Formula where
  tokens : List Token
  shape : Token.checkShape tokens = .ok ()
  deriving DecidableEq

namespace Formula

instance : BEq Formula := ⟨fun f g => f.tokens == g.tokens⟩

/-- The data that is hashed. Formulas with equal keys have identical tokens, numbers compared by their
bits. -/
def key (f : Formula) : List Token.Key := f.tokens.map Token.key

instance : Hashable Formula := ⟨fun f => hash f.key⟩

def ofTokens (tokens : List Token) : Except Malformed Formula :=
  match h : Token.checkShape tokens with
  | .ok () => .ok ⟨tokens, h⟩
  | .error reason => .error reason

/-- Normalizes a variable token and requires the normalized name to be accepted. Other tokens are
unchanged. -/
def normalizeToken (normalize : String → String) (accepts : String → Bool) :
    Token → Except Malformed Token
  | .var name =>
    if accepts (normalize name) then .ok (.var (normalize name))
    else .error (.variableName (normalize name))
  | t => .ok t

/-- Parses a formula: all tokens are lexed first, then the variables are normalized from left to right,
then the shape is checked. -/
def ofTextWith (normalize : String → String) (accepts : String → Bool) (cs : List Char) :
    Except Malformed Formula := do
  let tokens ← Token.lexAll cs
  let tokens ← tokens.mapM (normalizeToken normalize accepts)
  ofTokens tokens

/-- Parses a formula and accepts every variable as it is written. -/
def ofText (cs : List Char) : Except Malformed Formula :=
  ofTextWith id (fun _ => true) cs

/-- The variables of a formula from left to right, with repetitions. -/
def occurrences (f : Formula) : List String := f.tokens.filterMap Token.name?

def variableNames (f : Formula) : NameSet := Std.ExtTreeSet.ofList f.occurrences

def text (f : Formula) : List Char := f.tokens.flatMap Token.text

end Formula
end Worksheet
