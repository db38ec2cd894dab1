import Worksheet.Proofs.Formula.Value
import Mathlib.Logic.Function.Basic

/-! Substitution of a parenthesised formula for a variable. -/
namespace Worksheet

namespace Token

def enclose (ts : List Token) : List Token := left :: (ts ++ [right])

/-- Replaces a variable token by a parenthesised token sequence. -/
def inline (v : String) (body : List Token) : Token → List Token
  | var name => if name = v then enclose body else [var name]
  | t => [t]

end Token

namespace Derivation
variable {c : Category} {v : String} {body : Derivation .sum} {lookup : String → Option Float} {x : Float}

/-- Replaces the variable `v` in a derivation by a parenthesised sum. -/
def inline (v : String) (body : Derivation .sum) {c : Category} : Derivation c → Derivation c
  | number x => number x
  | var name => if name = v then group body else var name
  | group s => group (inline v body s)
  | factor f => factor (inline v body f)
  | scaled p op tight f => scaled (inline v body p) op tight (inline v body f)
  | product p => product (inline v body p)
  | shifted s op loose p => shifted (inline v body s) op loose (inline v body p)

theorem tokens_inline (d : Derivation c) :
    (inline v body d).tokens = d.tokens.flatMap (Token.inline v body.tokens) := by
  induction d with
  | number x => rfl
  | var name =>
    rw [inline, tokens, List.flatMap_singleton, Token.inline]
    split <;> rfl
  | group s ih =>
    rw [inline, tokens, tokens, ih, List.flatMap_cons, List.flatMap_append]
    rfl
  | factor f ih | product f ih => exact ih
  | scaled p op tight f ihp ihf | shifted p op tight f ihp ihf =>
    rw [inline, tokens, tokens, ihp, ihf, List.flatMap_append, List.flatMap_cons]
    rfl

/-- Substituting a sum of value `x` has the same value as looking up `x`. -/
theorem value_inline (h : body.value lookup = .ok x) (d : Derivation c) :
    (inline v body d).value lookup = d.value (Function.update lookup v (some x)) := by
  induction d with
  | number y => rfl
  | var name =>
    rw [inline, value]
    split
    · next same =>
      rw [same, Function.update_self]
      exact h
    · next other =>
      rw [Function.update_of_ne other]
      rfl
  | group s ih | factor s ih | product s ih => exact ih
  | scaled p op tight f ihp ihf | shifted p op tight f ihp ihf => rw [inline, value, value, ihp, ihf]

end Derivation

namespace Formula

theorem shape_inline (f : Formula) (v : String) (g : Formula) :
    Token.checkShape (f.tokens.flatMap (Token.inline v g.tokens)) = .ok () := by
  obtain ⟨d, hd⟩ := Token.checkShape_eq_ok_iff_exists.mp f.shape
  obtain ⟨body, hbody⟩ := Token.checkShape_eq_ok_iff_exists.mp g.shape
  refine Token.checkShape_eq_ok_iff_exists.mpr ⟨.inline v body d, ?_⟩
  rw [Derivation.tokens_inline, hd, hbody]

/-- Replaces every occurrence of the variable `v` by the parenthesised formula `g`. -/
def inline (f : Formula) (v : String) (g : Formula) : Formula :=
  ⟨f.tokens.flatMap (Token.inline v g.tokens), shape_inline f v g⟩

theorem shape_group (f : Formula) : Token.checkShape (Token.enclose f.tokens) = .ok () := by
  obtain ⟨d, hd⟩ := Token.checkShape_eq_ok_iff_exists.mp f.shape
  exact Token.checkShape_eq_ok_iff_exists.mpr
    ⟨.product (.factor (.group d)), congrArg Token.enclose hd⟩

def group (f : Formula) : Formula := ⟨Token.enclose f.tokens, shape_group f⟩

theorem evaluate_group (f : Formula) (lookup : String → Option Float) :
    f.group.evaluate lookup = f.evaluate lookup := by
  obtain ⟨d, hd, value⟩ := f.exists_evaluate_eq_value
  have whole : (Derivation.product (.factor (.group d))).tokens = f.group.tokens :=
    congrArg Token.enclose hd
  rw [evaluate_eq_value whole, value]
  rfl

/-- If `g` has the value `x`, then substituting it for `v` gives the same value or the same fault as
looking up `x` for `v`. Parentheses around a whole formula preserve its value. -/
theorem evaluate_inline {g : Formula} {lookup : String → Option Float} {x : Float}
    (h : g.evaluate lookup = .ok x) (f : Formula) (v : String) :
    Token.checkShape (f.tokens.flatMap (Token.inline v g.tokens)) = .ok () ∧
      (f.inline v g).evaluate lookup = f.evaluate (Function.update lookup v (some x)) ∧
        ∀ lookup', f.group.evaluate lookup' = f.evaluate lookup' := by
  refine ⟨shape_inline f v g, ?_, f.evaluate_group⟩
  obtain ⟨d, hd, value⟩ := f.exists_evaluate_eq_value
  obtain ⟨body, hbody, value'⟩ := g.exists_evaluate_eq_value
  have whole : (Derivation.inline v body d).tokens = (f.inline v g).tokens := by
    rw [Derivation.tokens_inline, hd, hbody, inline]
  calc (f.inline v g).evaluate lookup
    _ = (Derivation.inline v body d).value lookup := evaluate_eq_value whole lookup
    _ = d.value (Function.update lookup v (some x)) := Derivation.value_inline ((value' lookup).symm.trans h) d
    _ = f.evaluate (Function.update lookup v (some x)) := (value _).symm

/-- A quotient substituted for a divisor; the value depends on the parentheses. -/
theorem evaluate_inline_quotient :
    let f : Formula := ⟨[.number 6, .operator .divide, .var "v", .operator .multiply, .var "v"], rfl⟩
    let g : Formula := ⟨[.number 1, .operator .add, .var "u"], rfl⟩
    let lookup (name : String) : Option Float := if name = "u" then some 2 else none
    g.evaluate lookup = .ok 3 ∧ (f.inline "v" g).evaluate lookup = .ok 6 ∧
      f.group.evaluate lookup = .error (.undefinedVariable "v") := by
  intro f g lookup
  have value : g.evaluate lookup = .ok 3 := by decide +kernel
  have sent : f.evaluate (Function.update lookup "v" (some 3)) = .ok 6 := by decide +kernel
  have fails : f.evaluate lookup = .error (.undefinedVariable "v") := by decide +kernel
  obtain ⟨_, inlined, grouped⟩ := evaluate_inline value f "v"
  exact ⟨value, inlined.trans sent, (grouped lookup).trans fails⟩

end Formula
end Worksheet
