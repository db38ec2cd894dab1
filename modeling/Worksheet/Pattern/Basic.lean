import Worksheet.Pattern.CharSet

/-! Patterns for names and their search semantics. A set of positions is represented by a number whose
bits are its members, so all start positions are followed simultaneously. -/
namespace Worksheet

/-- A condition on the characters before and after a position. -/
inductive Assertion
  | textStart
  | textEnd
  | wordStart
  | wordEnd
  | wordBoundary
  | noWordBoundary
  deriving DecidableEq, Repr

namespace Assertion

def isWordChar (c : Option Char) : Bool := c.any (CharSet.wordChars.contains false)

def holds (before after : Option Char) : Assertion → Bool
  | textStart => before.isNone
  | textEnd => after.isNone
  | wordStart => !isWordChar before && isWordChar after
  | wordEnd => isWordChar before && !isWordChar after
  | wordBoundary => isWordChar before != isWordChar after
  | noWordBoundary => isWordChar before == isWordChar after

end Assertion

inductive Pattern
  | empty
  | char (set : CharSet) (anyCase : Bool)
  | assertion (a : Assertion)
  | group (p : Pattern)
  | seq (p q : Pattern)
  | alt (p q : Pattern)
  | repeated (p : Pattern) (least : Nat) (most : Option Nat)
  deriving DecidableEq, Repr

namespace Pattern

/-- The set of positions whose marks are true. -/
def positions (marks : List Bool) : Nat :=
  marks.foldr (fun mark rest => 2 * rest + mark.toNat) 0

/-- The positions of the characters that belong to a set. -/
def charPositions (text : List Char) (set : CharSet) (anyCase : Bool) : Nat :=
  positions (text.map (set.contains anyCase))

def assertionPositions (text : List Char) (a : Assertion) : Nat :=
  positions (List.zipWith (fun before after => a.holds before after)
    (none :: text.map some) (text.map some ++ [none]))

/-- The positions reached in exactly `rounds` steps; the iteration ends at a fixed point. -/
def advance (step : Nat → Nat) : Nat → Nat → Nat
  | 0, s => s
  | rounds + 1, s =>
    let next := step s
    if next = s then s else advance step rounds next

/-- The positions reached from `fresh` in at most `rounds` steps, together with those reached before. -/
def reach (step : Nat → Nat) : Nat → Nat → Nat → Nat
  | 0, reached, _ => reached
  | rounds + 1, reached, fresh =>
    let next := (step fresh ||| reached) ^^^ reached
    if next = 0 then reached else reach step rounds (reached ||| next) next

/-- The transition of a pattern on sets of positions, for a fixed text. -/
structure Way where
  ends : Nat → Nat

/-- The transition of each pattern. Since positions never decrease, as many rounds as there are positions
reach a fixed point. -/
def way (text : List Char) : Pattern → Way
  | empty => ⟨id⟩
  | char set anyCase =>
    let marks := charPositions text set anyCase
    ⟨fun s => (s &&& marks) <<< 1⟩
  | assertion a =>
    let marks := assertionPositions text a
    ⟨fun s => s &&& marks⟩
  | group p => p.way text
  | seq p q =>
    let first := p.way text
    let second := q.way text
    ⟨fun s => second.ends (first.ends s)⟩
  | alt p q =>
    let first := p.way text
    let second := q.way text
    ⟨fun s => first.ends s ||| second.ends s⟩
  | repeated p least most =>
    let step := p.way text
    let limit := text.length + 1
    ⟨fun s =>
      let begun := advance step.ends (min least limit) s
      reach step.ends (min ((most.map (· - least)).getD limit) limit) begun begun⟩

/-- The pattern matches at some position of the text. -/
def matchesIn (p : Pattern) (text : String) : Bool :=
  let text := text.toList
  (p.way text).ends (positions (List.replicate (text.length + 1) true)) != 0

/-- The nesting depth of a pattern; a sequence or choice counts once. -/
def depth : Pattern → Nat
  | empty | assertion _ => 0
  | char (.range _ _) _ | char (.complement (.range _ _)) _ => 0
  | char _ _ => 1
  | group p => p.depth + 1
  | seq p q => max (match p with | seq _ _ => p.depth | _ => p.depth + 1) (q.depth + 1)
  | alt p q => max (match p with | alt _ _ => p.depth | _ => p.depth + 1) (q.depth + 1)
  | repeated p _ _ => p.depth + 1

/-- An approximation of the number of automaton states. -/
def states : Pattern → Nat
  | empty | assertion _ => 1
  | char (.range _ _) _ => 1
  | char (.complement _) _ => 12
  | char _ _ => 2
  | group p => p.states + 2
  | seq p q => p.states + q.states
  | alt p q => p.states + q.states + 2
  | repeated p least none => p.states * max 1 least + 1
  | repeated p least (some most) => p.states * max least most + (most - least)

/-- Bounds on the nesting depth and on the size of accepted patterns. -/
def isModest (p : Pattern) : Bool := decide (p.depth ≤ 250 ∧ p.states ≤ 0x50000)

end Pattern
end Worksheet
