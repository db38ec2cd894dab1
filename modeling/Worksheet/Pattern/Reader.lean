import Worksheet.Pattern.Class
import Worksheet.Text.Blank

/-! Syntax of patterns: literals, `.`, classes, escapes, `^`, `$`, groups, `|` and repetition. The text
is split into pieces, from which the groups are assembled. -/
namespace Worksheet.Pattern

inductive Piece
  | set (s : CharSet)
  | assertion (a : Assertion)
  | opening (name : List Char) (anyCase : Option Bool)
  | closing
  | switch (anyCase : Option Bool)
  | bar
  | times (least : Nat) (most : Option Nat)
  deriving DecidableEq, Repr

def Escape.toPiece : Escape → Piece
  | literal c => .set (.single c)
  | set s => .set s
  | assertion a => .assertion a

/-- A decimal number below `2 ^ 32`, optionally surrounded by blanks. -/
def scanCount (cs : List Char) : Option Nat × List Char :=
  let cs := cs.dropWhile Text.isBlank
  let digits := cs.takeWhile Char.isDigit
  let n := Nat.ofDigitChars 10 digits 0
  (if digits ≠ [] ∧ n < 0x100000000 then some n else none,
    (cs.dropWhile Char.isDigit).dropWhile Text.isBlank)

def scanCounts (cs : List Char) : Option ((Nat × Option Nat) × List Char) :=
  match scanCount cs with
  | (some least, '\x7d' :: rest) => some ((least, some least), rest)
  | (some least, ',' :: '\x7d' :: rest) => some ((least, none), rest)
  | (some least, ',' :: rest) => match scanCount rest with
    | (some most, '\x7d' :: rest) => if least ≤ most then some ((least, some most), rest) else none
    | _ => none
  | _ => none

/-- Removes a lazy mark after a repetition; it does not affect whether a pattern matches. -/
def dropLazy : List Char → List Char
  | '?' :: cs => cs
  | cs => cs

/-- The effect of flags on case sensitivity, if any. The remaining flags have no effect on text without
line feeds; a hyphen negates the flags after it. -/
def readFlags (flags : List Char) : Option (Option Bool) :=
  if flags.all ("imsUuR-".toList.contains ·) ∧ flags.Nodup ∧ flags.getLast? ≠ some '-' then
    some (if 'i' ∈ flags.takeWhile (· != '-') then some true
      else if 'i' ∈ flags then some false else none)
  else none

def isGroupName : List Char → Bool
  | [] => false
  | c :: cs => (c.isAlpha || c == '_') &&
    cs.all fun c => c.isAlphanum || c == '_' || c == '.' || c == '[' || c == ']'

def scanGroupName (cs : List Char) : Option (Piece × List Char) :=
  let name := cs.takeWhile (· != '>')
  match cs.dropWhile (· != '>') with
  | [] => none
  | _ :: rest => if isGroupName name then some (.opening name none, rest) else none

/-- The text after an opening parenthesis: a group name, flags of the group, or flags of the remaining
enclosing group. -/
def scanGroup : List Char → Option (Piece × List Char)
  | '?' :: 'P' :: '<' :: cs | '?' :: '<' :: cs => scanGroupName cs
  | '?' :: cs =>
    let isEnd (c : Char) : Bool := c == ':' || c == ')'
    let flags := cs.takeWhile (!isEnd ·)
    match cs.dropWhile (!isEnd ·) with
    | ':' :: rest => (readFlags flags).map fun anyCase => (.opening [] anyCase, rest)
    | _ :: rest =>
      if flags = [] then none else (readFlags flags).map fun anyCase => (.switch anyCase, rest)
    | [] => none
  | cs => some (.opening [] none, cs)

/-- The piece that begins with `c` and continues in `cs`, and the rest. -/
def scanPiece (c : Char) (cs : List Char) : Option (Piece × List Char) :=
  match c with
  | '(' => scanGroup cs
  | ')' => some (.closing, cs)
  | '|' => some (.bar, cs)
  | '*' => some (.times 0 none, dropLazy cs)
  | '+' => some (.times 1 none, dropLazy cs)
  | '?' => some (.times 0 (some 1), dropLazy cs)
  | '\x7b' => (scanCounts cs).map fun ((least, most), rest) => (.times least most, dropLazy rest)
  | '^' => some (.assertion .textStart, cs)
  | '$' => some (.assertion .textEnd, cs)
  | '.' => some (.set .any, cs)
  | '[' =>
    let (c, cs) := Class.scanOpening cs
    (scanClass c [] cs).map fun (s, rest) => (.set s, rest)
  | c => (scanItem c cs).map fun (e, rest) => (e.toPiece, rest)

private theorem scanCount_length (cs : List Char) : (scanCount cs).2.length ≤ cs.length := by
  have first := dropWhile_length Text.isBlank cs
  have second := dropWhile_length Char.isDigit (cs.dropWhile Text.isBlank)
  have third := dropWhile_length Text.isBlank ((cs.dropWhile Text.isBlank).dropWhile Char.isDigit)
  simp only [scanCount]
  omega

private theorem scanCounts_length {cs rest : List Char} {counts : Nat × Option Nat}
    (h : scanCounts cs = some (counts, rest)) : rest.length ≤ cs.length := by
  have first := scanCount_length cs
  unfold scanCounts at h
  grind [scanCount_length]

private theorem dropLazy_length (cs : List Char) : (dropLazy cs).length ≤ cs.length := by
  fun_cases dropLazy cs <;> simp

private theorem scanGroup_length {cs rest : List Char} {piece : Piece}
    (h : scanGroup cs = some (piece, rest)) : rest.length ≤ cs.length := by
  unfold scanGroup scanGroupName at h
  grind [dropWhile_length, Option.map_eq_some_iff]

theorem scanPiece_length {c : Char} {cs rest : List Char} {piece : Piece}
    (h : scanPiece c cs = some (piece, rest)) : rest.length ≤ cs.length := by
  unfold scanPiece at h
  split at h
  all_goals grind [→ scanGroup_length, dropLazy_length, → scanCounts_length, scanOpening_length,
    → scanClass_length, → scanItem_length, Option.map_eq_some_iff]

def scanPieces : List Char → Option (List Piece)
  | [] => some []
  | c :: cs => match h : scanPiece c cs with
    | none => none
    | some (piece, rest) =>
      have := scanPiece_length h
      (scanPieces rest).map (piece :: ·)
termination_by cs => cs.length

/-- A partially read group, with the latest alternatives and items first. An item that is not a pattern
cannot be repeated. -/
structure Group where
  anyCase : Bool
  alternatives : List Pattern
  items : List (Option Pattern)

namespace Group

def start (anyCase : Bool) : Group := ⟨anyCase, [], []⟩

def push (g : Group) (p : Pattern) : Group := ⟨g.anyCase, g.alternatives, some p :: g.items⟩

def switch (g : Group) (anyCase : Bool) : Group := ⟨anyCase, g.alternatives, none :: g.items⟩

/-- The sequence of the items in the last alternative. -/
def last (g : Group) : Pattern :=
  match g.items.reverse.map (·.getD .empty) with
  | [] => .empty
  | p :: ps => ps.foldl .seq p

def bar (g : Group) : Group := ⟨g.anyCase, g.last :: g.alternatives, []⟩

def toPattern (g : Group) : Pattern :=
  match (g.last :: g.alternatives).reverse with
  | [] => .empty
  | p :: ps => ps.foldl .alt p

end Group

/-- Adds a piece to the innermost group; `outer` are the enclosing groups. -/
def addPiece : Group × List Group → Piece → Option (Group × List Group)
  | (g, outer), .set s => some (g.push (.char s g.anyCase), outer)
  | (g, outer), .assertion a => some (g.push (.assertion a), outer)
  | (g, outer), .bar => some (g.bar, outer)
  | (g, outer), .opening _ anyCase => some (.start (anyCase.getD g.anyCase), g :: outer)
  | (g, outer), .switch anyCase => some (g.switch (anyCase.getD g.anyCase), outer)
  | (g, parent :: outer), .closing => some (parent.push (.group g.toPattern), outer)
  | (_, []), .closing => none
  | (⟨anyCase, alternatives, some p :: items⟩, outer), .times least most =>
    some (⟨anyCase, alternatives, some (.repeated p least most) :: items⟩, outer)
  | (_, _), .times _ _ => none

def Piece.groupName? : Piece → Option (List Char)
  | opening [] _ => none
  | opening name _ => some name
  | _ => none

/-- Parses a pattern. Group names must be distinct. -/
def ofText? (text : String) : Option Pattern := do
  let pieces ← scanPieces text.toList
  guard (pieces.filterMap Piece.groupName?).Nodup
  match ← pieces.foldlM addPiece (Group.start false, []) with
  | (g, []) => if g.toPattern.isModest then some g.toPattern else none
  | (_, _ :: _) => none

end Worksheet.Pattern
