import Worksheet.Formula.Machine

/-! Contents and values of a cell. An evaluation that fails yields an error value. -/
namespace Worksheet

inductive Value
  | number (x : Float)
  | text (s : String)
  | error (e : FormulaFault)
  deriving DecidableEq, Repr

namespace Value

/-- The value of a cell that does not exist. -/
def empty : Value := .text ""

def number? : Value → Option Float
  | number x => some x
  | _ => none

def text? : Value → Option String
  | text s => some s
  | _ => none

def error? : Value → Option FormulaFault
  | error e => some e
  | _ => none

def isEmpty (v : Value) : Bool := v.text? == some ""

def display : Value → String
  | number x => String.ofList (Number.text x)
  | text s => s
  | error .divisionByZero => "#DIV/0!"
  | error (.undefinedVariable _) => "#REF!"
  | error (.malformed _) => "#VALUE!"

end Value

inductive Contents
  | number (x : Float)
  | text (s : String)
  | formula (f : Formula)
  deriving DecidableEq

namespace Contents

/-- The contents of a cell that does not exist. -/
def empty : Contents := .text ""

def number? : Contents → Option Float
  | number x => some x
  | _ => none

def text? : Contents → Option String
  | text s => some s
  | _ => none

def formula? : Contents → Option Formula
  | formula f => some f
  | _ => none

def isEmpty (c : Contents) : Bool := c.text? == some ""

/-- The names of the cells to which the contents refer. -/
def precedents : Contents → NameSet
  | formula f => f.variableNames
  | _ => ∅

def evaluate (c : Contents) (lookup : String → Option Float) : Value :=
  match c with
  | number x => .number x
  | text s => .text s
  | formula f => match f.evaluate lookup with
    | .ok x => .number x
    | .error e => .error e

def lookups (c : Contents) (lookup : String → Option Float) : List String :=
  match c with
  | formula f => f.lookups lookup
  | _ => []

/-- The text that represents the contents as entered text; a formula is preceded by the marker. -/
def written (marker : Char) : Contents → String
  | number x => String.ofList (Number.text x)
  | text s => s
  | formula f => String.ofList (marker :: f.text)

end Contents

/-- The contents of a cell, and the value computed at its last evaluation. -/
structure Cell where
  contents : Contents
  value : Value
  deriving DecidableEq

end Worksheet
