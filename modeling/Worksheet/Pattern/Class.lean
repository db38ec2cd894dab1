import Worksheet.Pattern.Basic

/-! Syntax of classes such as `[A-Z&&[^AEIOU]]` and of escapes. Adjacent members are united before the
operators `&&`, `--` and `~~`, which associate to the left. -/
namespace Worksheet.Pattern

/-- The denotation of an escape sequence. -/
inductive Escape
  | literal (c : Char)
  | set (s : CharSet)
  | assertion (a : Assertion)
  deriving DecidableEq, Repr

def isHexDigit (c : Char) : Bool :=
  c.isDigit || decide ('a' ≤ c ∧ c ≤ 'f') || decide ('A' ≤ c ∧ c ≤ 'F')

def hexValue (c : Char) : Nat :=
  if c.isDigit then c.toNat - '0'.toNat else c.toLower.toNat - 'a'.toNat + 10

def charOfHex? (digits : List Char) : Option Char :=
  let n := digits.foldl (fun n c => 16 * n + hexValue c) 0
  if digits ≠ [] ∧ digits.all isHexDigit ∧ n.isValidChar then some (Char.ofNat n) else none

/-- A code point given by a fixed number of hexadecimal digits, or by any number of them in braces. -/
def scanHex (width : Nat) : List Char → Option (Char × List Char)
  | '\x7b' :: cs => match cs.dropWhile (· != '\x7d') with
    | [] => none
    | _ :: rest => (charOfHex? (cs.takeWhile (· != '\x7d'))).map (·, rest)
  | cs =>
    if width ≤ cs.length then (charOfHex? (cs.take width)).map (·, cs.drop width) else none

/-- The escapes of a single character. An ASCII character other than a letter, a digit or an angle
bracket denotes itself. -/
def Escape.ofChar? : Char → Option Escape
  | 'd' => some (.set .digits)
  | 'D' => some (.set (.complement .digits))
  | 's' => some (.set .spaces)
  | 'S' => some (.set (.complement .spaces))
  | 'w' => some (.set .wordChars)
  | 'W' => some (.set (.complement .wordChars))
  | 'A' => some (.assertion .textStart)
  | 'z' => some (.assertion .textEnd)
  | '<' => some (.assertion .wordStart)
  | '>' => some (.assertion .wordEnd)
  | 'b' => some (.assertion .wordBoundary)
  | 'B' => some (.assertion .noWordBoundary)
  | 'a' => some (.literal '\x07')
  | 't' => some (.literal '\t')
  | 'n' => some (.literal '\n')
  | 'v' => some (.literal '\x0b')
  | 'f' => some (.literal '\x0c')
  | 'r' => some (.literal '\r')
  | c => if c.toNat < 128 ∧ !c.isAlphanum then some (.literal c) else none

def hexWidth? : Char → Option Nat
  | 'x' => some 2
  | 'u' => some 4
  | 'U' => some 8
  | _ => none

def scanEscape : List Char → Option (Escape × List Char)
  | [] => none
  | c :: cs => match hexWidth? c with
    | some width => (scanHex width cs).map fun (c, rest) => (.literal c, rest)
    | none => (Escape.ofChar? c).map (·, cs)

/-- An escape, or a character that denotes itself. -/
def scanItem (c : Char) (cs : List Char) : Option (Escape × List Char) :=
  if c = '\\' then scanEscape cs else some (.literal c, cs)

/-- One member of a class: an item or a range. A hyphen before a closing bracket or before another hyphen
does not form a range. -/
def scanMember (c : Char) (cs : List Char) : Option (CharSet × List Char) := do
  match ← scanItem c cs with
  | (.assertion _, _) => none
  | (.set s, rest) => match rest with
    | '-' :: next :: _ => if next = ']' ∨ next = '-' then some (s, rest) else none
    | _ => some (s, rest)
  | (.literal first, rest) => match rest with
    | '-' :: next :: rest =>
      if next = ']' ∨ next = '-' then some (.single first, '-' :: next :: rest)
      else match ← scanItem next rest with
        | (.literal last, rest) => if first ≤ last then some (.range first last, rest) else none
        | _ => none
    | _ => some (.single first, rest)

/-- A named class such as `[:alpha:]` or `[:^alpha:]`, after its opening bracket. -/
def scanNamed (cs : List Char) : Option (CharSet × List Char) :=
  match cs with
  | ':' :: cs =>
    let (negated, cs) : Bool × List Char := match cs with
      | '^' :: cs => (true, cs)
      | cs => (false, cs)
    match cs.dropWhile (· != ':') with
    | ':' :: ']' :: rest =>
      (CharSet.ofName? (String.ofList (cs.takeWhile (· != ':')))).map fun s =>
        (if negated then .complement s else s, rest)
    | _ => none
  | _ => none

/-- A partially read class. The members since the last operator form its right operand. -/
structure Class where
  negated : Bool
  apply : CharSet → CharSet
  members : CharSet

namespace Class

def add (c : Class) (s : CharSet) : Class := ⟨c.negated, c.apply, .union c.members s⟩

def operator (c : Class) (op : CharSet → CharSet → CharSet) : Class :=
  ⟨c.negated, op (c.apply c.members), .empty⟩

def toSet (c : Class) : CharSet :=
  if c.negated then .complement (c.apply c.members) else c.apply c.members

/-- The start of a class. A closing bracket or hyphens in first position are literal. -/
def scanOpening (cs : List Char) : Class × List Char :=
  let (negated, cs) : Bool × List Char := match cs with
    | '^' :: cs => (true, cs)
    | cs => (false, cs)
  let start : Class := ⟨negated, id, .empty⟩
  match cs with
  | ']' :: rest => (start.add (.single ']'), rest)
  | '-' :: rest => (start.add (.single '-'), rest.dropWhile (· == '-'))
  | cs => (start, cs)

end Class

theorem dropWhile_length (p : Char → Bool) (cs : List Char) :
    (cs.dropWhile p).length ≤ cs.length :=
  (List.dropWhile_sublist p).length_le

private theorem scanHex_length {width : Nat} {cs rest : List Char} {c : Char}
    (h : scanHex width cs = some (c, rest)) : rest.length ≤ cs.length := by
  unfold scanHex at h
  split at h
  · next cs =>
    have := dropWhile_length (· != '\x7d') cs
    split at h
    · cases h
    · next found =>
      obtain ⟨_, _, rfl, rfl⟩ := Option.map_eq_some_iff.mp h
      grind
  · split at h
    · obtain ⟨_, _, rfl, rfl⟩ := Option.map_eq_some_iff.mp h
      simp
    · cases h

private theorem scanEscape_length {cs rest : List Char} {e : Escape}
    (h : scanEscape cs = some (e, rest)) : rest.length ≤ cs.length := by
  unfold scanEscape at h
  split at h
  · cases h
  · next c cs =>
    split at h
    · obtain ⟨⟨_, _⟩, found, rfl, rfl⟩ := Option.map_eq_some_iff.mp h
      exact Nat.le_succ_of_le (scanHex_length found)
    · obtain ⟨_, _, rfl, rfl⟩ := Option.map_eq_some_iff.mp h
      exact Nat.le_succ _

theorem scanItem_length {c : Char} {cs rest : List Char} {e : Escape}
    (h : scanItem c cs = some (e, rest)) : rest.length ≤ cs.length := by
  unfold scanItem at h
  grind [→ scanEscape_length]

private theorem scanMember_length {c : Char} {cs rest : List Char} {s : CharSet}
    (h : scanMember c cs = some (s, rest)) : rest.length ≤ cs.length := by
  simp only [scanMember, Option.bind_eq_bind, Option.bind_eq_some_iff] at h
  obtain ⟨⟨e, rest⟩, found, h⟩ := h
  have := scanItem_length found
  split at h
  all_goals grind [→ scanItem_length, Option.bind_eq_some_iff]

private theorem scanNamed_length {cs rest : List Char} {s : CharSet}
    (h : scanNamed cs = some (s, rest)) : rest.length ≤ cs.length := by
  unfold scanNamed at h
  grind [dropWhile_length, Option.map_eq_some_iff]

theorem scanOpening_length (cs : List Char) :
    (Class.scanOpening cs).2.length ≤ cs.length := by
  unfold Class.scanOpening
  grind [dropWhile_length]

/-- Reads the class `c`, nested in the classes `outer`, up to the closing bracket of the outermost. -/
def scanClass (c : Class) (outer : List Class) : List Char → Option (CharSet × List Char)
  | [] => none
  | ']' :: cs => match outer with
    | [] => some (c.toSet, cs)
    | parent :: outer => scanClass (parent.add c.toSet) outer cs
  | '&' :: '&' :: cs => scanClass (c.operator .intersection) outer cs
  | '-' :: '-' :: cs => scanClass (c.operator .difference) outer cs
  | '~' :: '~' :: cs => scanClass (c.operator .symmetricDifference) outer cs
  | '[' :: cs => match named : scanNamed cs with
    | some (s, rest) =>
      have := scanNamed_length named
      scanClass (c.add s) outer rest
    | none =>
      have := scanOpening_length cs
      scanClass (Class.scanOpening cs).1 (c :: outer) (Class.scanOpening cs).2
  | next :: cs => match member : scanMember next cs with
    | some (s, rest) =>
      have := scanMember_length member
      scanClass (c.add s) outer rest
    | none => none
termination_by cs => cs.length

theorem scanClass_length {c : Class} {outer : List Class} {cs rest : List Char} {s : CharSet}
    (h : scanClass c outer cs = some (s, rest)) : rest.length ≤ cs.length := by
  fun_induction scanClass c outer cs <;>
    grind [scanOpening_length, → scanMember_length, → scanNamed_length]

end Worksheet.Pattern
