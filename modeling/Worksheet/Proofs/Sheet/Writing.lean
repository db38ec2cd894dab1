import Worksheet.Proofs.Formula.Printing
import Worksheet.Proofs.Sheet.Config

/-! Contents are recovered from their written text, and normalized names are fixed by normalization. -/
namespace Worksheet

/-- A signed or unsigned numeric literal may begin with the character. -/
def BeginsNumber (c : Char) : Prop := c.isDigit = true ∨ c ∈ ['+', '-', '.']

instance (c : Char) : Decidable (BeginsNumber c) := inferInstanceAs (Decidable (_ ∨ _))

theorem Number.isFinite_of_not_beginsNumber {first : Char} {cs : List Char} {x : Float} (h : ¬ BeginsNumber first)
    (read : ofText? (first :: cs) = some x) : x.isFinite = false := by
  rw [BeginsNumber, not_or] at h
  obtain ⟨digit, sign⟩ := h
  simp only [List.mem_cons, List.not_mem_nil, or_false, not_or] at sign
  have unsigned : ofText? (first :: cs) = unsigned? false (first :: cs) := by
    refine ofText?_of_head fun c hc => ?_
    cases hc
    exact ⟨sign.1, sign.2.1⟩
  rw [unsigned] at read
  rw [Bool.eq_false_iff]
  intro finite
  obtain ⟨n, cut, some, -⟩ := exists_scan_of_unsigned? read finite
  exact (Numeral.head_of_scan cut some).elim digit sign.2.2

namespace Config
open Text
variable {c : Config}

/-- An admitted name consists of ASCII letters followed by digits. -/
theorem exists_letters_digits_of_admits {name : String} (h : c.admits name = true) :
    ∃ letters digits, name.toList = letters ++ digits ∧ letters ≠ [] ∧ digits ≠ [] ∧
      (∀ d ∈ letters, d.isAlpha = true) ∧ ∀ d ∈ digits, d.isDigit = true := by
  rw [admits, CellName.isAllowed, Bool.and_eq_true] at h
  have wellFormed := h.1
  rw [CellName.isWellFormed, Bool.and_eq_true] at wellFormed
  obtain ⟨letters, number⟩ := wellFormed
  split at number
  · cases number
  · next digit digits rest =>
    simp only [Bool.and_eq_true, List.all_eq_true] at number
    refine ⟨name.toList.takeWhile Char.isAlpha, digit :: digits, ?_, by simpa using letters,
      List.cons_ne_nil digit digits, fun d hd => List.mem_takeWhile_imp (p := Char.isAlpha) hd, ?_⟩
    · rw [← rest, List.takeWhile_append_dropWhile]
    · exact List.forall_mem_cons.mpr ⟨number.1.1, number.2⟩

theorem isWord_of_admits {name : String} (h : c.admits name = true) : Token.IsWord name.toList := by
  obtain ⟨letters, digits, whole, some, -, alpha, digit⟩ := exists_letters_digits_of_admits h
  obtain ⟨first, others, rfl⟩ := List.exists_cons_of_ne_nil some
  refine ⟨first, others ++ digits, whole, alpha first List.mem_cons_self, fun d hd => ?_⟩
  rcases List.mem_append.mp hd with hd | hd
  · exact isAlphanum_of_isAlpha (alpha d (List.mem_cons_of_mem first hd))
  · exact isAlphanum_of_isDigit (digit d hd)

/-- Normalization is idempotent where its result is admitted. -/
theorem normalize_normalize {given : String} (h : c.admits (c.normalize given) = true) :
    c.normalize (c.normalize given) = c.normalize given := by
  have ascii := (isWord_of_admits h).isAlphanum
  cases fold : c.foldCase with
  | false =>
    have same (name : String) : c.normalize name = name := by simp [normalize, fold]
    rw [same]
  | true =>
    have same (name : String) : c.normalize name = upper name := by simp [normalize, fold]
    rw [same] at ascii
    rw [same, same]
    exact upper_upper fun d hd => toNat_lt_of_isAlphanum (ascii d hd)

/-- The admitted names that normalization leaves unchanged. -/
def IsNormal (c : Config) (name : String) : Prop := c.admits name = true ∧ c.normalize name = name

theorem isNormal_of_admits {given : String} (h : c.admits (c.normalize given) = true) :
    c.IsNormal (c.normalize given) :=
  ⟨h, normalize_normalize h⟩

theorem IsNormal.cellName_eq {name : String} (h : c.IsNormal name) : c.cellName name = .ok name := by
  refine cellName_eq_ok.mpr ⟨ne_empty_of_admits h.1, ?_, h.2.symm⟩
  rw [h.2]
  exact h.1

section
variable {body : List Char} {f : Formula} (read : Formula.ofTextWith c.normalize c.admits body = .ok f)
include read

theorem isWord_of_ofTextWith : ∀ name ∈ f.variableNames, Token.IsWord name.toList :=
  fun name hn => isWord_of_admits (Formula.ofTextWith_accepts read name hn)

theorem isNormal_of_ofTextWith : ∀ name ∈ f.variableNames, c.IsNormal name := by
  intro name hn
  obtain ⟨given, rfl, admitted⟩ := Formula.exists_normalize_eq read hn
  exact isNormal_of_admits admitted

theorem normalize_of_ofTextWith : ∀ name ∈ f.variableNames, c.normalize name = name :=
  fun name hn => (isNormal_of_ofTextWith read name hn).2

theorem writable_of_ofTextWith : ∀ t ∈ f.tokens, t.Writable :=
  Formula.writable_of_ofTextWith (isWord_of_ofTextWith read) read

end

/-- A marker that begins no number prevents a formula from being read as a number. -/
theorem finiteNumber?_marker {raw : String} {body : List Char} {f : Formula} (plain : ¬ BeginsNumber c.marker)
    (marked : c.IsMarked raw body) (read : Formula.ofTextWith c.normalize c.admits body = .ok f) :
    finiteNumber? (c.marker :: f.text) = none := by
  have writable := writable_of_ofTextWith read
  have visible := Formula.visible_text writable
  rw [Option.eq_none_iff_forall_not_mem]
  intro y hy
  obtain ⟨number, finite⟩ := finiteNumber?_eq_some.mp hy
  cases blank : isBlank c.marker with
  | false =>
    rw [trim_eq_self (List.forall_mem_cons.mpr ⟨blank, visible⟩)] at number
    cases (Number.isFinite_of_not_beginsNumber plain number).symm.trans finite
  | true =>
    rw [trim_cons blank, trim_eq_self visible] at number
    have lexed := Token.lexAll_eq_ok.mp (Formula.lexAll_text writable)
    have single := lexed.eq_number f.shape number finite
    have original := Token.lexAll_eq_ok.mp (Formula.lexAll_of_tokens_eq_number read single)
    have entered : finiteNumber? raw.toList = some y := by
      rw [marked.2, finiteNumber?_eq_some, trim_cons blank]
      exact original.ofText?_trim
    cases marked.1.symm.trans entered

theorem readEntry_written_of_eq_none {raw : String} {contents : Contents} (h : c.readEntry raw = .ok contents)
    (none : ∀ f, contents = .formula f → finiteNumber? (c.marker :: f.text) = none) :
    c.readEntry (contents.written c.marker) = .ok contents := by
  cases contents with
  | number x =>
    obtain ⟨_, finite⟩ := finiteNumber?_eq_some.mp (readEntry_eq_number.mp h)
    rw [readEntry_eq_number, Contents.written, String.toList_ofList, finiteNumber?_eq_some,
      trim_eq_self (Number.visible_text finite)]
    exact ⟨Number.ofText?_text finite, finite⟩
  | text s =>
    obtain ⟨rfl, -⟩ := readEntry_eq_text.mp h
    exact h
  | formula f =>
    obtain ⟨body, _, read⟩ := readEntry_eq_formula.mp h
    refine readEntry_eq_formula.mpr ⟨f.text, ⟨?_, String.toList_ofList⟩, ?_⟩
    · rw [Contents.written, String.toList_ofList]
      exact none f rfl
    · exact Formula.ofTextWith_text (isWord_of_ofTextWith read) (normalize_of_ofTextWith read) read

theorem readEntry_written {raw : String} {contents : Contents} (plain : ¬ BeginsNumber c.marker)
    (h : c.readEntry raw = .ok contents) : c.readEntry (contents.written c.marker) = .ok contents := by
  refine readEntry_written_of_eq_none h ?_
  rintro f rfl
  obtain ⟨body, marked, read⟩ := readEntry_eq_formula.mp h
  exact finiteNumber?_marker plain marked read

end Config

/-- A parsed formula is recovered from its text if its names are words that normalization leaves
unchanged. The condition holds for parsing without normalization and for all formulas of a sheet. -/
theorem Formula.text_reads_back :
    (∀ (normalize : String → String) (accepts : String → Bool) (cs : List Char) (f : Formula),
      ofTextWith normalize accepts cs = .ok f →
      (∀ name ∈ f.variableNames, Token.IsWord name.toList ∧ normalize name = name) →
      ofTextWith normalize accepts f.text = .ok f) ∧
    (∀ cs f, ofText cs = .ok f → ofText f.text = .ok f) ∧
    ∀ (c : Config) cs f, ofTextWith c.normalize c.admits cs = .ok f →
      ofTextWith c.normalize c.admits f.text = .ok f := by
  refine ⟨fun normalize accepts cs f read names => ?_, fun cs f read => ?_, fun c cs f read => ?_⟩
  · exact ofTextWith_text (fun name hn => (names name hn).1) (fun name hn => (names name hn).2) read
  · exact ofTextWith_text (isWord_of_ofText read) (fun _ _ => rfl) read
  · exact ofTextWith_text (Config.isWord_of_ofTextWith read) (Config.normalize_of_ofTextWith read) read

/-- Every name is normalized to `E5`, which has the form of an exponent. An operator and a parenthesis
separate it from the number. -/
theorem Formula.text_reads_back_exponent :
    let f : Formula := ⟨[.number 25, .operator .multiply, .left, .var "E5", .operator .subtract, .var "E5",
      .right], rfl⟩
    ofTextWith (fun _ => "E5") (fun _ => true) "2.50e1 *( e - x7 )".toList = .ok f ∧
      (∀ name ∈ f.variableNames, Token.IsWord name.toList ∧ (fun _ => "E5") name = name) ∧
      f.text = "25*(E5-E5)".toList ∧ ofTextWith (fun _ => "E5") (fun _ => true) f.text = .ok f := by
  intro f
  have read : ofTextWith (fun _ => "E5") (fun _ => true) "2.50e1 *( e - x7 )".toList = .ok f := by
    decide +kernel
  have names : ∀ name ∈ f.variableNames, Token.IsWord name.toList ∧ (fun _ => "E5") name = name := by
    intro name hn
    obtain rfl : name = "E5" := by simpa [f] using mem_variableNames.mp hn
    exact ⟨⟨'E', ['5'], rfl, rfl, by simp⟩, rfl⟩
  exact ⟨read, names, by decide +kernel, text_reads_back.1 _ _ _ f read names⟩

end Worksheet
