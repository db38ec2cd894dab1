import Worksheet.Proofs.Text.Ascii

/-! Texts that differ at most in the case of ASCII letters. Blanks, digits, symbols and the upper-case
form are invariant under such a change. -/
namespace Worksheet.Text

def SameLetters (cs ds : List Char) : Prop := cs.map Char.toLower = ds.map Char.toLower

instance (cs ds : List Char) : Decidable (SameLetters cs ds) := inferInstanceAs (Decidable (_ = _))

theorem SameLetters.refl (cs : List Char) : SameLetters cs cs := rfl

theorem SameLetters.cons {cs ds : List Char} (c : Char) (h : SameLetters cs ds) :
    SameLetters (c :: cs) (c :: ds) :=
  congrArg (c.toLower :: ·) h

/-- It suffices to consider ASCII characters and characters that lower-casing leaves unchanged. -/
theorem forall_toLower {P : Char → Char → Prop} (same : ∀ c, P c c)
    (ascii : ∀ n < 128, P (Char.ofNat n) (Char.ofNat n).toLower) (c : Char) : P c c.toLower := by
  by_cases small : c.toNat < 128
  · exact ascii_forall (P := fun c => P c c.toLower) ascii small
  · have other : ¬ (c.val ≥ 'A'.val ∧ c.val ≤ 'Z'.val) := by
      rintro ⟨-, le⟩
      have : c.toNat ≤ 90 := UInt32.le_iff_toNat_le.mp le
      omega
    rw [Char.toLower, dif_neg other]
    exact same c

variable (c : Char) (cs : List Char)

@[simp] theorem isDigit_toLower : c.toLower.isDigit = c.isDigit :=
  forall_toLower (P := fun c d => d.isDigit = c.isDigit) (fun _ => rfl) (by decide +kernel) c

@[simp] theorem isAlpha_toLower : c.toLower.isAlpha = c.isAlpha :=
  forall_toLower (P := fun c d => d.isAlpha = c.isAlpha) (fun _ => rfl) (by decide +kernel) c

@[simp] theorem isAlphanum_toLower : c.toLower.isAlphanum = c.isAlphanum := by
  rw [Char.isAlphanum, isAlpha_toLower, isDigit_toLower, Char.isAlphanum]

@[simp] theorem isBlank_toLower : isBlank c.toLower = isBlank c :=
  forall_toLower (P := fun c d => isBlank d = isBlank c) (fun _ => rfl) (by decide +kernel) c

@[simp] theorem toLower_toLower : c.toLower.toLower = c.toLower :=
  forall_toLower (P := fun c d => d.toLower = c.toLower) (fun _ => rfl) (by decide +kernel) c

@[simp] theorem ofSymbol?_toLower : Operator.ofSymbol? c.toLower = Operator.ofSymbol? c :=
  forall_toLower (P := fun c d => Operator.ofSymbol? d = Operator.ofSymbol? c) (fun _ => rfl) (by decide +kernel) c

variable {c} {d : Char}

theorem toLower_of_isAlpha_eq_false (h : c.isAlpha = false) : c.toLower = c :=
  forall_toLower (P := fun c d => c.isAlpha = false → d = c) (fun _ _ => rfl) (by decide +kernel) c h

theorem toLower_eq_iff (h : d.isAlpha = false) : c.toLower = d ↔ c = d := by
  constructor
  · rintro rfl
    rw [isAlpha_toLower] at h
    exact (toLower_of_isAlpha_eq_false h).symm
  · rintro rfl
    exact toLower_of_isAlpha_eq_false h

theorem isExponentMark_toLower : (c.toLower = 'e' ∨ c.toLower = 'E') ↔ c = 'e' ∨ c = 'E' :=
  forall_toLower (P := fun c d => (d = 'e' ∨ d = 'E') ↔ c = 'e' ∨ c = 'E') (fun _ => Iff.rfl) (by decide +kernel) c

theorem upperChar_toLower (c : Char) : upperChar c.toLower = upperChar c :=
  forall_toLower (P := fun c d => upperChar d = upperChar c) (fun _ => rfl) (by decide +kernel) c

variable {p : Char → Bool}

theorem takeWhile_map_toLower (h : ∀ c : Char, p c.toLower = p c) :
    (cs.map Char.toLower).takeWhile p = (cs.takeWhile p).map Char.toLower := by
  rw [List.takeWhile_map]
  exact congrArg _ (congrArg (List.takeWhile · cs) (funext h))

theorem dropWhile_map_toLower (h : ∀ c : Char, p c.toLower = p c) :
    (cs.map Char.toLower).dropWhile p = (cs.dropWhile p).map Char.toLower := by
  rw [List.dropWhile_map]
  exact congrArg _ (congrArg (List.dropWhile · cs) (funext h))

theorem takeWhile_isDigit_map_toLower :
    (cs.map Char.toLower).takeWhile Char.isDigit = cs.takeWhile Char.isDigit := by
  rw [takeWhile_map_toLower cs isDigit_toLower]
  refine (List.map_congr_left fun c hc => ?_).trans (List.map_id _)
  have digit : c.isDigit = true := List.mem_takeWhile_imp hc
  refine toLower_of_isAlpha_eq_false (Bool.eq_false_iff.mpr fun alpha => ?_)
  cases digit.symm.trans (isDigit_of_isAlpha alpha)

theorem map_toLower_map_toLower : (cs.map Char.toLower).map Char.toLower = cs.map Char.toLower := by
  rw [List.map_map]
  exact List.map_congr_left fun c _ => toLower_toLower c

theorem trim_map_toLower : trim (cs.map Char.toLower) = (trim cs).map Char.toLower := by
  rw [trim, dropWhile_map_toLower cs isBlank_toLower, ← List.map_reverse,
    dropWhile_map_toLower _ isBlank_toLower, ← List.map_reverse, trim]

theorem toLower_ofList : (String.ofList cs).toLower = String.ofList (cs.map Char.toLower) := by
  rw [← String.toList_inj, String.toLower, String.toList_map, String.toList_ofList, String.toList_ofList]

theorem upper_toLower (s : String) : upper s.toLower = upper s := by
  rw [upper, String.toLower, String.toList_map, List.flatMap_map]
  exact congrArg _ (List.flatMap_congr fun c _ => upperChar_toLower c)

theorem SameLetters.toLower_eq {s t : String} (h : SameLetters s.toList t.toList) : s.toLower = t.toLower := by
  rw [← String.toList_inj, String.toLower, String.toList_map, String.toLower, String.toList_map]
  exact h

theorem SameLetters.upper_eq {s t : String} (h : SameLetters s.toList t.toList) : upper s = upper t := by
  rw [← upper_toLower s, h.toLower_eq, upper_toLower]

end Worksheet.Text
