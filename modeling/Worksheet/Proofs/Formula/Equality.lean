import Worksheet.Proofs.Sheet.Stored
import Mathlib.Data.List.TFAE

/-! Equality of parsed formulas. Their numbers are finite and nonnegative, so equality, equality of the
hashed data and equality of the text coincide. -/
namespace Worksheet

namespace Token
variable {t u : Token} {ts us : List Token}

theorem beq_iff_eq_of_writable (ht : t.Writable) (hu : u.Writable) : (t == u) = true ↔ t = u := by
  change Token.beq t u = true ↔ t = u
  cases t with
  | number x =>
    cases u with
    | number y => simpa [Token.beq] using Binary64.beq_iff_of_sign ht.1 (ht.2.trans hu.2.symm)
    | var _ | operator _ | left | right => simp [Token.beq]
  | var _ | operator _ | left | right => cases u <;> simp [Token.beq]

/-- The two zeros are equal as numbers but have different keys. -/
example : (number 0 == number (-0)) = true ∧ (number 0).key ≠ (number (-0)).key := by decide +kernel

theorem beq_list_iff_eq_of_writable (ht : ∀ t ∈ ts, t.Writable) (hu : ∀ u ∈ us, u.Writable) :
    (ts == us) = true ↔ ts = us := by
  induction ts generalizing us with
  | nil => cases us <;> simp
  | cons t ts ih =>
    cases us with
    | nil => simp
    | cons u us =>
      obtain ⟨first, others⟩ := List.forall_mem_cons.mp ht
      obtain ⟨first', others'⟩ := List.forall_mem_cons.mp hu
      rw [List.cons_beq_cons, Bool.and_eq_true, beq_iff_eq_of_writable first first', ih others others',
        List.cons.injEq]

theorem key_injective : Function.Injective key := by
  intro t u h
  cases t with
  | number x =>
    cases u with
    | number y =>
      have bits : x.toBits = y.toBits := by simpa [key] using h
      rw [← Binary64.ofBits_toBits x, ← Binary64.ofBits_toBits y, bits]
    | var _ | operator _ | left | right => cases h
  | var _ | operator _ | left | right => cases u <;> simp_all [key]

end Token

namespace Formula
variable {f g : Formula}

/-- The formula is the result of parsing a text, either directly or as the contents of a cell. -/
inductive IsRead (f : Formula) : Prop
  | text (cs : List Char) (read : ofText cs = .ok f)
  | entry (c : Config) (raw : String) (read : c.readEntry raw = .ok (.formula f))

theorem IsRead.writable (h : f.IsRead) : ∀ t ∈ f.tokens, t.Writable := by
  cases h with
  | text cs read => exact (Token.lexAll_eq_ok.mp (ofText_eq_ok.mp read)).writable
  | entry c raw read =>
    obtain ⟨body, -, formula⟩ := Config.readEntry_eq_formula.mp read
    exact Config.writable_of_ofTextWith formula

theorem isRead_of_contents {config : Config} {commands : List Command} {name : String}
    (h : ((Sheet.empty config).run commands).contents name = .formula f) : f.IsRead := by
  let s := (Sheet.empty config).run commands
  have entered : s.Entered := Sheet.run_entered config commands
  have filled : s.cells.contents (s.config.normalize name) ≠ .empty := by
    rw [← Sheet.contents, h]
    intro text
    cases text
  obtain ⟨raw, read⟩ := entered.read _ ((entered.contains_iff _).mpr filled)
  rw [← Sheet.contents, h] at read
  exact .entry s.config raw read

theorem key_eq_iff : f.key = g.key ↔ f.tokens = g.tokens :=
  (List.map_injective_iff.mpr Token.key_injective).eq_iff

/-- The text determines the tokens, although it contains no separators. -/
theorem IsRead.text_eq_iff (hf : f.IsRead) (hg : g.IsRead) : f.text = g.text ↔ f.tokens = g.tokens := by
  constructor
  · intro same
    apply Except.ok.inj
    calc Except.ok f.tokens
      _ = Token.lexAll f.text := (lexAll_text hf.writable).symm
      _ = Token.lexAll g.text := by rw [same]
      _ = .ok g.tokens := lexAll_text hg.writable
  · intro same
    rw [Formula.text, Formula.text, same]

/-- For parsed formulas, equality, identity of the tokens, equality of the keys and equality of the texts
are equivalent, and equality is reflexive. Every formula stored in a sheet is parsed. -/
theorem equal_key_text_tfae :
    (∀ f g : Formula, f.IsRead → g.IsRead →
      [(f == g) = true, f.tokens = g.tokens, f.key = g.key, f.text = g.text].TFAE) ∧
    (∀ f : Formula, f.IsRead → (f == f) = true) ∧
    ∀ (config : Config) (commands : List Command) (name : String) (f : Formula),
      ((Sheet.empty config).run commands).contents name = .formula f → f.IsRead := by
  have equal {f g : Formula} (hf : f.IsRead) (hg : g.IsRead) : (f == g) = true ↔ f.tokens = g.tokens :=
    Token.beq_list_iff_eq_of_writable hf.writable hg.writable
  refine ⟨fun f g hf hg => ?_, fun f hf => (equal hf hf).mpr rfl, fun _ _ _ _ h => isRead_of_contents h⟩
  tfae_have 1 ↔ 2 := equal hf hg
  tfae_have 3 ↔ 2 := key_eq_iff
  tfae_have 4 ↔ 2 := hf.text_eq_iff hg
  tfae_finish

/-- Literals that round to zero are equal to each other and differ from the least literal that does
not. -/
theorem equal_key_text_tfae_underflow :
    let f : Formula := ⟨[.var "A1", .operator .add, .number 0], rfl⟩
    let g : Formula := ⟨[.var "A1", .operator .add, .number (Float.ofBits 1)], rfl⟩
    ofText "A1 + 1e-400".toList = .ok f ∧ Config.readEntry {} "=a1+.0" = .ok (.formula f) ∧
      ofText "A1 + 4e-324".toList = .ok g ∧ f.IsRead ∧ g.IsRead ∧ (f == f) = true ∧
      [(f == g) = true, f.tokens = g.tokens, f.key = g.key, f.text = g.text].TFAE ∧ f.text ≠ g.text := by
  intro f g
  have small : ofText "A1 + 1e-400".toList = .ok f := by decide +kernel
  have entry : Config.readEntry {} "=a1+.0" = .ok (.formula f) := by decide +kernel
  have least : ofText "A1 + 4e-324".toList = .ok g := by decide +kernel
  have hf : f.IsRead := .entry {} _ entry
  have hg : g.IsRead := .text _ least
  have same := equal_key_text_tfae.1 f g hf hg
  have other : f.tokens ≠ g.tokens := by decide +kernel
  exact ⟨small, entry, least, hf, hg, equal_key_text_tfae.2.1 f hf, same, mt (same.out 3 1).mp other⟩

end Formula
end Worksheet
