import Worksheet.Formula.Operator
import Worksheet.Text.Blank
import Worksheet.Text.UpperCase
import Mathlib

/-! Classes of ASCII characters, and their behaviour under trimming and upper-casing. -/
namespace Worksheet.Text

/-- A property of the first 128 code points holds for every ASCII character. -/
theorem ascii_forall {P : Char → Prop} (h : ∀ n < 128, P (Char.ofNat n)) {c : Char} (hc : c.toNat < 128) :
    P c :=
  Char.ofNat_toNat c ▸ h c.toNat hc

theorem isLower_iff {c : Char} : c.isLower = true ↔ 97 ≤ c.toNat ∧ c.toNat ≤ 122 := by
  simp [Char.isLower, UInt32.le_iff_toNat_le]

theorem toNat_lt_of_isAlphanum {c : Char} (h : c.isAlphanum = true) : c.toNat < 128 := by
  simp only [Char.isAlphanum, Char.isAlpha, Char.isUpper, isLower_iff, Char.isDigit, Bool.or_eq_true,
    Bool.and_eq_true, decide_eq_true_eq, UInt32.le_iff_toNat_le, ge_iff_le, Char.toNat_val] at h
  change ((65 ≤ _ ∧ _ ≤ 90) ∨ _) ∨ 48 ≤ _ ∧ _ ≤ 57 at h
  omega

theorem isAlphanum_of_isDigit {c : Char} (h : c.isDigit = true) : c.isAlphanum = true := by
  rw [Char.isAlphanum, h, Bool.or_true]

theorem isAlphanum_of_isAlpha {c : Char} (h : c.isAlpha = true) : c.isAlphanum = true := by
  rw [Char.isAlphanum, h, Bool.true_or]

theorem isDigit_of_isAlpha {c : Char} (h : c.isAlpha = true) : c.isDigit = false :=
  ascii_forall (P := fun c => c.isAlpha = true → c.isDigit = false) (by decide +kernel)
    (toNat_lt_of_isAlphanum (isAlphanum_of_isAlpha h)) h

/-- A character that is no blank, operator symbol, parenthesis or point; letters and digits are plain. -/
structure IsPlain (c : Char) : Prop where
  visible : isBlank c = false
  noSymbol : Operator.ofSymbol? c = none
  noParenthesis : c ≠ '(' ∧ c ≠ ')'
  noPoint : c ≠ '.'

theorem isPlain_iff {c : Char} : IsPlain c ↔
    isBlank c = false ∧ Operator.ofSymbol? c = none ∧ (c ≠ '(' ∧ c ≠ ')') ∧ c ≠ '.' :=
  ⟨fun ⟨a, b, c, d⟩ => ⟨a, b, c, d⟩, fun ⟨a, b, c, d⟩ => ⟨a, b, c, d⟩⟩

theorem isPlain_of_isAlphanum {c : Char} (h : c.isAlphanum = true) : IsPlain c := by
  refine ascii_forall (P := fun c => c.isAlphanum = true → IsPlain c) ?_ (toNat_lt_of_isAlphanum h) h
  simp only [isPlain_iff]
  decide +kernel

theorem dropWhile_isBlank_append {cs rest : List Char} (hcs : ∀ c ∈ cs, isBlank c = false) (hne : cs ≠ []) :
    (cs ++ rest).dropWhile isBlank = cs ++ rest := by
  obtain ⟨c, cs, rfl⟩ := List.exists_cons_of_ne_nil hne
  rw [List.cons_append, List.dropWhile_cons_of_neg]
  simp [hcs]

theorem trim_append {pre cs post : List Char} (hpre : ∀ c ∈ pre, isBlank c = true)
    (hcs : ∀ c ∈ cs, isBlank c = false) (hpost : ∀ c ∈ post, isBlank c = true) :
    trim (pre ++ (cs ++ post)) = cs := by
  rw [trim, List.dropWhile_append_of_pos hpre]
  by_cases hne : cs = []
  · rw [hne, List.nil_append, List.dropWhile_eq_nil_iff.mpr hpost]
    rfl
  · have whole : cs.reverse.dropWhile isBlank = cs.reverse := by
      rw [← cs.reverse.append_nil]
      exact dropWhile_isBlank_append (by simpa using hcs) (by simpa using hne)
    rw [dropWhile_isBlank_append hcs hne, List.reverse_append,
      List.dropWhile_append_of_pos (by simpa using hpost), whole, List.reverse_reverse]

theorem trim_cons {c : Char} (blank : isBlank c = true) (cs : List Char) : trim (c :: cs) = trim cs := by
  rw [trim, List.dropWhile_cons_of_pos blank, trim]

theorem trim_eq_self {cs : List Char} (h : ∀ c ∈ cs, isBlank c = false) : trim cs = cs := by
  have whole := @trim_append [] cs [] nofun h nofun
  rwa [List.nil_append, List.append_nil] at whole

theorem isLower_ofNat {n : Nat} (h : n < 97 ∨ 122 < n) : (Char.ofNat n).isLower = false := by
  rw [Bool.eq_false_iff, ne_eq, isLower_iff, Char.ofNat]
  split
  · change ¬ (97 ≤ n ∧ n ≤ 122)
    omega
  · decide

/-- Upper-case forms contain no lower-case ASCII letter. -/
theorem isLower_of_mem_upperChar {c d : Char} (h : d ∈ upperChar c) : d.isLower = false := by
  rw [upperChar] at h
  split at h
  · next ascii =>
    rw [List.mem_singleton.mp h]
    exact ascii_forall (P := fun c => c.toUpper.isLower = false) (by decide +kernel) ascii
  · next other =>
    split at h
    · next form found =>
      obtain ⟨n, hn, rfl⟩ := List.mem_map.mp h
      have table : ∀ entry ∈ caseExpansions, ∀ n ∈ entry.2, n < 97 ∨ 122 < n := by decide +kernel
      obtain ⟨_, _, entries, _⟩ := List.lookup_eq_some_iff.mp found
      refine isLower_ofNat (table (c.toNat, form) ?_ n hn)
      rw [entries]
      exact List.mem_append_right _ List.mem_cons_self
    · split at h
      · next r found =>
        rw [List.mem_singleton.mp h]
        have table : ∀ r ∈ caseRuns, r.target + (r.last - r.first) < 97 ∨ 122 < r.target := by decide +kernel
        have covers : r.Covers c.toNat := by simpa using List.find?_some found
        obtain ⟨_, least, _⟩ := covers
        have := table r (List.mem_of_find?_eq_some found)
        exact isLower_ofNat (by omega)
      · rw [List.mem_singleton.mp h, Bool.eq_false_iff, ne_eq, isLower_iff]
        omega

theorem upperChar_eq_self {c : Char} (ascii : c.toNat < 128) (h : c.isLower = false) : upperChar c = [c] := by
  rw [upperChar, if_pos ascii]
  exact ascii_forall (P := fun c => c.isLower = false → [c.toUpper] = [c]) (by decide +kernel) ascii h

/-- Upper-casing is idempotent if its result is ASCII. -/
theorem upper_upper {s : String} (ascii : ∀ c ∈ (upper s).toList, c.toNat < 128) :
    upper (upper s) = upper s := by
  have kept (c : Char) (hc : c ∈ (upper s).toList) : upperChar c = [c] := by
    refine upperChar_eq_self (ascii c hc) ?_
    rw [upper, String.toList_ofList] at hc
    obtain ⟨_, _, hd⟩ := List.mem_flatMap.mp hc
    exact isLower_of_mem_upperChar hd
  generalize upper s = t at *
  rw [upper, List.flatMap_congr kept, List.flatMap_singleton', String.ofList_toList]

end Worksheet.Text
