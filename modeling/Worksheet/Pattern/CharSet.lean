/-! Sets of characters denoted by pattern classes. -/
namespace Worksheet

inductive CharSet
  | empty
  | range (first last : Char)
  | union (a b : CharSet)
  | intersection (a b : CharSet)
  | difference (a b : CharSet)
  | symmetricDifference (a b : CharSet)
  | complement (a : CharSet)
  deriving DecidableEq, Repr

namespace CharSet

/-- The characters that equal an ASCII character up to case. -/
def caseVariants (c : Char) : List Char :=
  [c, c.toLower, c.toUpper] ++
    if c.toLower = 'k' then ['\u212A'] else if c.toLower = 's' then ['\u017F'] else []

def inRange (first last c : Char) : Bool := decide (first ≤ c ∧ c ≤ last)

/-- Membership in a set. With `anyCase`, a range also contains the case variants of its members. -/
def contains (anyCase : Bool) : CharSet → Char → Bool
  | empty, _ => false
  | range first last, c =>
    if anyCase then (caseVariants c).any (inRange first last) else inRange first last c
  | union a b, c => a.contains anyCase c || b.contains anyCase c
  | intersection a b, c => a.contains anyCase c && b.contains anyCase c
  | difference a b, c => a.contains anyCase c && !b.contains anyCase c
  | symmetricDifference a b, c => a.contains anyCase c != b.contains anyCase c
  | complement a, c => !a.contains anyCase c

def single (c : Char) : CharSet := range c c

def ofRanges (ranges : List (Char × Char)) : CharSet :=
  ranges.foldr (fun (first, last) s => union (range first last) s) empty

def any : CharSet := complement (single '\n')

def digits : CharSet := range '0' '9'

def spaces : CharSet := ofRanges [('\t', '\r'), (' ', ' ')]

def wordChars : CharSet := ofRanges [('0', '9'), ('A', 'Z'), ('a', 'z'), ('_', '_')]

/-- The named sets of ASCII characters. -/
def ofName? : String → Option CharSet
  | "alnum" => some (ofRanges [('0', '9'), ('A', 'Z'), ('a', 'z')])
  | "alpha" => some (ofRanges [('A', 'Z'), ('a', 'z')])
  | "ascii" => some (range '\x00' '\x7f')
  | "blank" => some (ofRanges [('\t', '\t'), (' ', ' ')])
  | "cntrl" => some (ofRanges [('\x00', '\x1f'), ('\x7f', '\x7f')])
  | "digit" => some digits
  | "graph" => some (range '!' '~')
  | "lower" => some (range 'a' 'z')
  | "print" => some (range ' ' '~')
  | "punct" => some (ofRanges [('!', '/'), (':', '@'), ('[', '\x60'), ('\x7b', '~')])
  | "space" => some spaces
  | "upper" => some (range 'A' 'Z')
  | "word" => some wordChars
  | "xdigit" => some (ofRanges [('0', '9'), ('A', 'F'), ('a', 'f')])
  | _ => none

end CharSet
end Worksheet
