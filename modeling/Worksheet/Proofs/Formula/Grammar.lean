import Worksheet.Proofs.Formula.Lookup

/-! The grammar of formulas. The shape check accepts exactly the token sequences with a derivation, and
derivations are unique. -/
namespace Worksheet

inductive Category
  | sum
  | product
  | factor

/-- The derivations of the grammar. Operators of both kinds group to the left. sum ::= product | sum
('+' | '-') product product ::= factor | product ('*' | '/') factor factor ::= number | variable |
'(' sum ')' -/
inductive Derivation : Category → Type
  | number (x : Float) : Derivation .factor
  | var (name : String) : Derivation .factor
  | group (s : Derivation .sum) : Derivation .factor
  | factor (f : Derivation .factor) : Derivation .product
  | scaled (p : Derivation .product) (op : Operator) (tight : op.bindsTight = true)
      (f : Derivation .factor) : Derivation .product
  | product (p : Derivation .product) : Derivation .sum
  | shifted (s : Derivation .sum) (op : Operator) (loose : op.bindsTight = false)
      (p : Derivation .product) : Derivation .sum

namespace Derivation

/-- The terminal tokens of a derivation. -/
def tokens {c : Category} : Derivation c → List Token
  | number x => [.number x]
  | var name => [.var name]
  | group s => .left :: (s.tokens ++ [.right])
  | factor f => f.tokens
  | scaled p op _ f => p.tokens ++ .operator op :: f.tokens
  | product p => p.tokens
  | shifted s op _ p => s.tokens ++ .operator op :: p.tokens

/-- Appends an operator and a factor to a sum. A multiplicative operator extends the last product of the
sum. -/
def extend (s : Derivation .sum) (op : Operator) (f : Derivation .factor) : Derivation .sum :=
  if tight : op.bindsTight = true then
    match s with
    | product p => product (scaled p op tight f)
    | shifted s first loose p => shifted s first loose (scaled p op tight f)
  else shifted s op (Bool.eq_false_iff.mpr tight) (factor f)

theorem tokens_extend (s : Derivation .sum) (op : Operator) (f : Derivation .factor) :
    (s.extend op f).tokens = s.tokens ++ .operator op :: f.tokens := by
  rw [extend]
  split
  · cases s with
    | product p => rfl
    | shifted s first loose p => simp [tokens]
  · rfl

end Derivation

/-- The part of a group before an operand: nothing, or a sum and an operator. -/
abbrev Frame := Option (Derivation .sum × Operator)

namespace Frame

def tokens : Frame → List Token
  | none => []
  | some (s, op) => s.tokens ++ [.operator op]

def addFactor : Frame → Derivation .factor → Derivation .sum
  | none, f => .product (.factor f)
  | some (s, op), f => s.extend op f

/-- The sum formed by a frame and the derivation after it. -/
def add {c : Category} (frame : Frame) : Derivation c → Derivation .sum
  | .number x => frame.addFactor (.number x)
  | .var name => frame.addFactor (.var name)
  | .group s => frame.addFactor (.group s)
  | .factor f => frame.add f
  | .scaled p op _ f => add (some (frame.add p, op)) f
  | .product p => frame.add p
  | .shifted s op _ p => add (some (frame.add s, op)) p

/-- The tokens of enclosing frames, the innermost first, each followed by its opening parenthesis. -/
def opened : List Frame → List Token
  | [] => []
  | frame :: frames => opened frames ++ (frame.tokens ++ [.left])

theorem tokens_addFactor (frame : Frame) (f : Derivation .factor) :
    (frame.addFactor f).tokens = frame.tokens ++ f.tokens := by
  cases frame with
  | none => rfl
  | some waiting => rw [addFactor, Derivation.tokens_extend, tokens, List.append_assoc, List.singleton_append]

theorem add_factor (frame : Frame) (f : Derivation .factor) : frame.add f = frame.addFactor f := by
  cases f <;> rfl

theorem add_product (p : Derivation .product) : add none p = .product p := by
  cases p with
  | factor f => rw [add, add_factor, addFactor]
  | scaled p op tight f =>
    rw [add, add_factor, add_product p, addFactor, Derivation.extend, dif_pos tight]

theorem add_product_of_loose {op : Operator} (loose : op.bindsTight = false) (s : Derivation .sum)
    (p : Derivation .product) : add (some (s, op)) p = .shifted s op loose p := by
  cases p with
  | factor f =>
    rw [add, add_factor, addFactor, Derivation.extend, dif_neg (Bool.eq_false_iff.mp loose)]
  | scaled p first tight f =>
    rw [add, add_factor, add_product_of_loose loose s p, addFactor, Derivation.extend, dif_pos tight]

theorem add_sum (s : Derivation .sum) : add none s = s := by
  cases s with
  | product p => rw [add, add_product]
  | shifted s op loose p => rw [add, add_sum s, add_product_of_loose loose]

end Frame

namespace Derivation
open Worksheet.Frame

mutual

/-- Continues a derivation at a position where an operand must begin. -/
def readOperand (frames : List Frame) (frame : Frame) : List Token → Option (Derivation .sum)
  | .number x :: ts => readOn frames (frame.addFactor (.number x)) ts
  | .var name :: ts => readOn frames (frame.addFactor (.var name)) ts
  | .left :: ts => readOperand (frame :: frames) none ts
  | _ => none

/-- Continues a derivation after an operand. -/
def readOn (frames : List Frame) (s : Derivation .sum) : List Token → Option (Derivation .sum)
  | [] => if frames.isEmpty then some s else none
  | .operator op :: ts => readOperand frames (some (s, op)) ts
  | .right :: ts => match frames with
    | frame :: frames => readOn frames (frame.addFactor (.group s)) ts
    | [] => none
  | _ => none

end

/-- The derivation of a token sequence, computed in one pass. -/
def read (ts : List Token) : Option (Derivation .sum) := readOperand [] none ts

theorem readOperand_tokens {c : Category} (d : Derivation c) (frames : List Frame) (frame : Frame)
    (rest : List Token) :
    readOperand frames frame (d.tokens ++ rest) = readOn frames (frame.add d) rest := by
  induction d generalizing frames frame rest with
  | number x | var name => rw [tokens, List.singleton_append, readOperand, add]
  | group s ih =>
    rw [tokens, List.cons_append, readOperand, List.append_assoc, ih, List.singleton_append, readOn,
      add_sum, add]
  | factor f ih => rw [tokens, ih, add]
  | scaled p op tight f ihp ihf => rw [tokens, List.append_assoc, ihp, List.cons_append, readOn, ihf, add]
  | product p ih => rw [tokens, ih, add]
  | shifted s op loose p ihs ihp => rw [tokens, List.append_assoc, ihs, List.cons_append, readOn, ihp, add]

theorem read_tokens (d : Derivation .sum) : read d.tokens = some d := by
  have whole := readOperand_tokens d [] none []
  rw [List.append_nil, add_sum, readOn] at whole
  exact whole

/-- Derivations are unique. -/
theorem tokens_injective {d e : Derivation .sum} (h : d.tokens = e.tokens) : d = e :=
  Option.some.inj <| calc
    some d = read d.tokens := (read_tokens d).symm
    _ = read e.tokens := by rw [h]
    _ = some e := read_tokens e

theorem tokens_of_read_eq_some (ts : List Token) :
    (∀ frames frame d, readOperand frames frame ts = some d →
      d.tokens = opened frames ++ (frame.tokens ++ ts)) ∧
    ∀ frames s d, readOn frames s ts = some d → d.tokens = opened frames ++ (s.tokens ++ ts) := by
  induction ts with
  | nil =>
    refine ⟨nofun, fun frames s d h => ?_⟩
    cases frames with
    | nil =>
      cases h
      simp [opened]
    | cons frame frames => cases h
  | cons t ts ih =>
    obtain ⟨operand, on⟩ := ih
    constructor
    · intro frames frame d h
      cases t with
      | number x | var name =>
        rw [readOperand] at h
        rw [on _ _ _ h, tokens_addFactor, tokens, List.append_assoc, List.singleton_append]
      | left =>
        rw [readOperand] at h
        rw [operand _ _ _ h, opened]
        simp [Frame.tokens]
      | operator _ | right => cases h
    · intro frames s d h
      cases t with
      | operator op =>
        rw [readOn] at h
        rw [operand _ _ _ h]
        simp [Frame.tokens]
      | right =>
        cases frames with
        | nil => cases h
        | cons frame frames =>
          rw [readOn] at h
          rw [on _ _ _ h, tokens_addFactor, opened]
          simp [tokens]
      | number _ | var _ | left => cases h

theorem read_eq_some {ts : List Token} {d : Derivation .sum} : read ts = some d ↔ d.tokens = ts := by
  constructor
  · exact fun h => (tokens_of_read_eq_some ts).1 [] none d h
  · rintro rfl
    exact read_tokens d

end Derivation

namespace Token
open Worksheet.Derivation

theorem beginsOperand_eq (t : Token) : t.beginsOperand = !t.comesAfterOperand := by
  cases t <;> rfl

theorem checkPair_eq_ok {t next : Token} :
    t.checkPair next = .ok () ↔ next.comesAfterOperand = t.endsOperand := by
  cases t <;> cases next <;>
    simp [checkPair, callsForOperand, beginsOperand, endsOperand, comesAfterOperand]

theorem checkRun_cons {depth depth' : Nat} {t next : Token} {ts : List Token} :
    checkRun depth (t :: next :: ts) = .ok depth' ↔ ∃ inner, t.depthAfter depth = .ok inner ∧
      next.comesAfterOperand = t.endsOperand ∧ checkRun inner (next :: ts) = .ok depth' := by
  rw [checkRun, Outcome.bind_eq_ok]
  refine exists_congr fun inner => and_congr_right fun _ => ?_
  rw [Outcome.bind_eq_ok, ← checkPair_eq_ok]
  exact ⟨fun ⟨_, pair, run⟩ => ⟨pair, run⟩, fun ⟨pair, run⟩ => ⟨(), pair, run⟩⟩

/-- The tokens close all parentheses, and the last of them ends an operand. -/
def Closes (depth : Nat) (ts : List Token) : Prop :=
  checkRun depth ts = .ok 0 ∧ ∀ last ∈ ts.getLast?, last.endsOperand = true

theorem closes_singleton {depth : Nat} {t : Token} :
    Closes depth [t] ↔ t.depthAfter depth = .ok 0 ∧ t.endsOperand = true := by
  simp [Closes, checkRun]

theorem closes_cons {depth : Nat} {t next : Token} {ts : List Token} :
    Closes depth (t :: next :: ts) ↔ ∃ inner, t.depthAfter depth = .ok inner ∧
      next.comesAfterOperand = t.endsOperand ∧ Closes inner (next :: ts) := by
  simp only [Closes, checkRun_cons, List.getLast?_cons_cons]
  constructor
  · rintro ⟨⟨inner, depth, pair, run⟩, last⟩
    exact ⟨inner, depth, pair, run, last⟩
  · rintro ⟨inner, depth, pair, run, last⟩
    exact ⟨⟨inner, depth, pair, run⟩, last⟩

theorem checkShape_eq_ok {first : Token} {ts : List Token} :
    checkShape (first :: ts) = .ok () ↔ first.beginsOperand = true ∧ Closes 0 (first :: ts) := by
  rw [checkShape, Closes, List.getLast?_eq_some_getLast (List.cons_ne_nil first ts)]
  cases checkRun 0 (first :: ts) with
  | error reason => exact ⟨nofun, nofun⟩
  | ok depth =>
    cases depth with
    | zero =>
      cases first.beginsOperand <;>
        cases he : ((first :: ts).getLast (List.cons_ne_nil first ts)).endsOperand <;>
        simp [bind, Except.bind, he]
    | succ depth => simp [bind, Except.bind]

/-- Reading succeeds on all tokens that pass the shape check. -/
theorem isSome_readOperand_readOn (t : Token) (ts : List Token) :
    (∀ frames frame, (readOperand frames frame (t :: ts)).isSome ↔
      t.beginsOperand = true ∧ Closes frames.length (t :: ts)) ∧
    ∀ frames s, (readOn frames s (t :: ts)).isSome ↔
      t.comesAfterOperand = true ∧ Closes frames.length (t :: ts) := by
  induction ts generalizing t with
  | nil =>
    simp only [closes_singleton]
    constructor
    · intro frames frame
      cases t <;> simp [readOperand, readOn, beginsOperand, depthAfter, endsOperand]
    · intro frames s
      cases t <;> cases frames <;>
        simp [readOperand, readOn, comesAfterOperand, depthAfter, endsOperand]
  | cons next ts ih =>
    obtain ⟨operand, on⟩ := ih next
    simp only [closes_cons, beginsOperand_eq]
    constructor
    · intro frames frame
      cases t with
      | number _ | var _ => simp [readOperand, on, comesAfterOperand, depthAfter, endsOperand]
      | left => simp [readOperand, operand, beginsOperand_eq, comesAfterOperand, depthAfter, endsOperand]
      | operator _ | right => simp [readOperand, comesAfterOperand]
    · intro frames s
      cases t with
      | operator _ => simp [readOn, operand, beginsOperand_eq, comesAfterOperand, depthAfter, endsOperand]
      | right => cases frames <;> simp [readOn, on, comesAfterOperand, depthAfter, endsOperand]
      | number _ | var _ | left => simp [readOn, comesAfterOperand]

theorem checkShape_eq_ok_iff_read {ts : List Token} : checkShape ts = .ok () ↔ (read ts).isSome := by
  cases ts with
  | nil => exact ⟨nofun, nofun⟩
  | cons t ts => rw [checkShape_eq_ok, Derivation.read, (isSome_readOperand_readOn t ts).1, List.length_nil]

theorem checkShape_eq_ok_iff_exists {ts : List Token} :
    checkShape ts = .ok () ↔ ∃ d : Derivation .sum, d.tokens = ts := by
  rw [checkShape_eq_ok_iff_read, Option.isSome_iff_exists]
  exact exists_congr fun d => read_eq_some

theorem not_closes_right (ts : List Token) : ¬ Closes 0 (right :: ts) := by
  cases ts with
  | nil =>
    rw [closes_singleton]
    exact fun h => nomatch h.1
  | cons next ts =>
    rw [closes_cons]
    exact fun ⟨_, depth, _⟩ => nomatch depth

/-- A formula is a single token, begins with a parenthesis, or begins with an operand and an operator. -/
theorem checkShape_cases {ts : List Token} (h : checkShape ts = .ok ()) :
    (∃ t, ts = [t]) ∨ (∃ rest, ts = left :: rest) ∨
      ∃ t op rest, ts = t :: operator op :: rest ∧ t.beginsOperand = true ∧ t.endsOperand = true := by
  rcases ts with _ | ⟨t, _ | ⟨next, ts⟩⟩
  · cases h
  · exact .inl ⟨t, rfl⟩
  · obtain ⟨begins, closes⟩ := checkShape_eq_ok.mp h
    obtain ⟨inner, depth, pair, closes⟩ := closes_cons.mp closes
    cases t with
    | left => exact .inr (.inl ⟨_, rfl⟩)
    | operator _ | right => cases begins
    | number _ | var _ =>
      cases next with
      | operator op => exact .inr (.inr ⟨_, op, ts, rfl, rfl, rfl⟩)
      | number _ | var _ | left => cases pair
      | right =>
        cases depth
        exact absurd closes (not_closes_right ts)

end Token

namespace Formula

theorem ofTextWith_eq_ok {normalize : String → String} {accepts : String → Bool} {cs : List Char}
    {f : Formula}
    (kept : ∀ ts, Token.lexAll cs = .ok ts → ∀ t ∈ ts, normalizeToken normalize accepts t = .ok t) :
    ofTextWith normalize accepts cs = .ok f ↔ Token.lexAll cs = .ok f.tokens := by
  rw [ofTextWith, Outcome.bind_eq_ok]
  constructor
  · rintro ⟨ts, lexed, h⟩
    rw [Outcome.mapM_eq_self (kept ts lexed)] at h
    rw [lexed, ofTokens_tokens h]
  · intro lexed
    refine ⟨f.tokens, lexed, ?_⟩
    rw [Outcome.mapM_eq_self (kept f.tokens lexed)]
    exact ofTokens_self f

theorem ofText_eq_ok {cs : List Char} {f : Formula} :
    ofText cs = .ok f ↔ Token.lexAll cs = .ok f.tokens := by
  refine ofTextWith_eq_ok fun ts _ t _ => ?_
  cases t <;> rfl

/-- A token sequence passes the shape check exactly if it has a derivation, and the derivation is unique.
Consequently a text parses exactly if its tokens have a derivation. -/
theorem shape_iff_derived :
    (∀ ts, Token.checkShape ts = .ok () ↔ ∃ d : Derivation .sum, d.tokens = ts) ∧
    (∀ d e : Derivation .sum, d.tokens = e.tokens ↔ d = e) ∧
    ∀ cs, (∃ f, ofText cs = .ok f) ↔ ∃ d : Derivation .sum, Token.lexAll cs = .ok d.tokens := by
  refine ⟨fun ts => Token.checkShape_eq_ok_iff_exists, fun d e => ?_, fun cs => ?_⟩
  · exact ⟨Derivation.tokens_injective, congrArg Derivation.tokens⟩
  · constructor
    · rintro ⟨f, read⟩
      obtain ⟨d, hd⟩ := Token.checkShape_eq_ok_iff_exists.mp f.shape
      exact ⟨d, hd ▸ ofText_eq_ok.mp read⟩
    · rintro ⟨d, lexed⟩
      exact ⟨⟨d.tokens, Token.checkShape_eq_ok_iff_exists.mpr ⟨d, rfl⟩⟩, ofText_eq_ok.mpr lexed⟩

end Formula
end Worksheet
