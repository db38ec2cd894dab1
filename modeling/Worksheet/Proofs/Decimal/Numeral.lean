import Worksheet.Decimal.Numeral
import Worksheet.Proofs.Text.Ascii

/-! Exactness of scanning literals. The text of a literal is scanned as that literal if no letter, digit
or point follows. -/
namespace Worksheet

namespace Text
variable {p : Char → Bool} {cs rest : List Char}

/-- The rest begins with neither a letter, a digit nor a point. -/
def IsBreak (rest : List Char) : Prop := ∀ c ∈ rest.head?, c.isAlphanum = false ∧ c ≠ '.'

theorem isBreak_nil : IsBreak [] := nofun

theorem takeWhile_append_stop (inside : ∀ c ∈ cs, p c = true) (stop : ∀ c ∈ rest.head?, p c = false) :
    (cs ++ rest).takeWhile p = cs := by
  rw [List.takeWhile_append_of_pos inside]
  cases rest with
  | nil => simp
  | cons c rest => simp [stop c rfl]

theorem dropWhile_append_stop (inside : ∀ c ∈ cs, p c = true) (stop : ∀ c ∈ rest.head?, p c = false) :
    (cs ++ rest).dropWhile p = rest := by
  rw [List.dropWhile_append_of_pos inside]
  cases rest with
  | nil => rfl
  | cons c rest => simp [stop c rfl]

theorem exists_getLast? (nonempty : cs ≠ []) (inside : ∀ c ∈ cs, p c = true) : ∃ c ∈ cs.getLast?, p c = true :=
  ⟨cs.getLast nonempty, List.getLast?_eq_some_getLast nonempty, inside _ (List.getLast_mem nonempty)⟩

theorem IsBreak.isDigit (h : IsBreak rest) : ∀ c ∈ rest.head?, c.isDigit = false := by
  intro c hc
  have := (h c hc).1
  rw [Char.isAlphanum, Bool.or_eq_false_iff] at this
  exact this.2

end Text

open Text

namespace Exponent

structure WellFormed (e : Exponent) : Prop where
  mark : e.mark = 'e' ∨ e.mark = 'E'
  sign : e.sign = none ∨ e.sign = some '+' ∨ e.sign = some '-'
  digits : ∀ c ∈ e.digits, c.isDigit = true
  nonempty : e.digits ≠ []

theorem splitSign_of_head {cs : List Char} (h : ∀ c ∈ cs.head?, c ≠ '+' ∧ c ≠ '-') :
    splitSign cs = (none, cs) := by
  unfold splitSign
  split
  · exact absurd rfl (h '+' rfl).1
  · exact absurd rfl (h '-' rfl).2
  · rfl

theorem splitSign_sign (cs : List Char) :
    (splitSign cs).1 = none ∨ (splitSign cs).1 = some '+' ∨ (splitSign cs).1 = some '-' := by
  unfold splitSign
  split <;> simp

theorem head_digits {c : Char} {cs rest : List Char} (hcs : ∀ c ∈ cs, c.isDigit = true) (hne : cs ≠ [])
    (hc : c ∈ (cs ++ rest).head?) : c.isDigit = true := by
  obtain ⟨d, cs, rfl⟩ := List.exists_cons_of_ne_nil hne
  obtain rfl : d = c := Option.some.inj hc
  exact hcs d List.mem_cons_self

variable {e : Exponent} {rest : List Char}

theorem scan_text_append_digits (h : e.WellFormed) (rest : List Char) :
    scan (e.text ++ rest) =
      (some ⟨e.mark, e.sign, e.digits ++ rest.takeWhile Char.isDigit⟩, rest.dropWhile Char.isDigit) := by
  obtain ⟨mark, sign, digits⟩ := e
  obtain ⟨hm, hs, hd, hne⟩ := h
  have split : splitSign (sign.toList ++ (digits ++ rest)) = (sign, digits ++ rest) := by
    rcases hs with rfl | rfl | rfl
    · refine splitSign_of_head fun c hc => ?_
      have digit := head_digits hd hne hc
      constructor <;> rintro rfl <;> cases digit
    · rfl
    · rfl
  rw [text, List.cons_append, List.cons_append, List.append_assoc, scan]
  simp only [split, List.takeWhile_append_of_pos hd, List.dropWhile_append_of_pos hd]
  exact if_pos ⟨hm, List.append_ne_nil_of_left_ne_nil hne _⟩

theorem scan_text_append (h : e.WellFormed) (stop : IsBreak rest) : scan (e.text ++ rest) = (some e, rest) := by
  have none : rest.takeWhile Char.isDigit = [] :=
    List.nil_append rest ▸ takeWhile_append_stop nofun stop.isDigit
  have all : rest.dropWhile Char.isDigit = rest :=
    List.nil_append rest ▸ dropWhile_append_stop nofun stop.isDigit
  rw [scan_text_append_digits h, none, all, List.append_nil]

theorem length_scan_le (cs : List Char) : (scan cs).2.length ≤ cs.length := by
  conv_rhs => rw [← scan_append cs, List.length_append]
  exact Nat.le_add_left _ _

theorem scan_of_isBreak (stop : IsBreak rest) : scan rest = (none, rest) := by
  cases rest with
  | nil => rfl
  | cons c rest =>
    rw [scan]
    refine if_neg ?_
    rintro ⟨rfl | rfl, _⟩
    · exact absurd (stop 'e' rfl).1 (by decide)
    · exact absurd (stop 'E' rfl).1 (by decide)

theorem visible_text (h : e.WellFormed) : ∀ c ∈ e.text, isBlank c = false := by
  intro c hc
  simp only [text, List.cons_append, List.mem_cons, List.mem_append, Option.mem_toList] at hc
  rcases hc with rfl | sign | hc
  · rcases h.mark with mark | mark <;> rw [mark] <;> decide
  · rcases h.sign with none | plus | minus
    · rw [none] at sign
      cases sign
    · rw [plus] at sign
      cases sign
      decide
    · rw [minus] at sign
      cases sign
      decide
  · exact (isPlain_of_isAlphanum (isAlphanum_of_isDigit (h.digits c hc))).visible

theorem wellFormed_of_scan {cs : List Char} (h : (scan cs).1 = some e) : e.WellFormed := by
  cases cs with
  | nil => cases h
  | cons mark rest =>
    simp only [scan] at h
    split at h
    · next found =>
      cases h
      refine ⟨found.1, splitSign_sign rest, fun c hc => ?_, found.2⟩
      exact List.mem_takeWhile_imp hc
    · cases h

/-- The only character in the text of an exponent that is neither a letter nor a digit is its sign, after
the mark. -/
theorem sign_of_text_eq (h : e.WellFormed) {pre post : List Char} {c : Char} (cut : e.text = pre ++ c :: post)
    (other : c.isAlphanum = false) : (c = '+' ∨ c = '-') ∧ pre = [e.mark] := by
  have digits (front : List Char) : e.digits ≠ front ++ c :: post := fun whole => by
    have hc : c ∈ e.digits := whole ▸ List.mem_append_right front List.mem_cons_self
    cases (isAlphanum_of_isDigit (h.digits c hc)).symm.trans other
  rw [text, List.cons_append] at cut
  rcases pre with _ | ⟨mark, pre⟩
  · obtain rfl := List.head_eq_of_cons_eq cut
    rcases h.mark with mark | mark <;> rw [mark] at other <;> cases other
  · obtain rfl := List.head_eq_of_cons_eq cut
    have tail : e.sign.toList ++ e.digits = pre ++ c :: post := List.tail_eq_of_cons_eq cut
    cases hs : e.sign with
    | none =>
      rw [hs] at tail
      exact absurd tail (digits pre)
    | some sign =>
      rw [hs] at tail
      rcases pre with _ | ⟨first, pre⟩
      · obtain rfl := List.head_eq_of_cons_eq tail
        simpa [hs] using h.sign
      · exact absurd (List.tail_eq_of_cons_eq tail) (digits pre)

end Exponent

namespace Numeral

structure WellFormed (n : Numeral) : Prop where
  whole : ∀ c ∈ n.whole, c.isDigit = true
  fraction : ∀ digits ∈ n.fraction, ∀ c ∈ digits, c.isDigit = true
  exponent : ∀ e ∈ n.exponent, e.WellFormed
  nonempty : n.digits ≠ []

variable {n : Numeral} {rest : List Char}

def exponentText (n : Numeral) : List Char := (n.exponent.map Exponent.text).getD []

theorem scan_exponentText (h : n.WellFormed) (stop : IsBreak rest) :
    Exponent.scan (n.exponentText ++ rest) = (n.exponent, rest) := by
  rw [exponentText]
  cases he : n.exponent with
  | none => exact Exponent.scan_of_isBreak stop
  | some e => exact Exponent.scan_text_append (h.exponent e he) stop

/-- The rest begins with no digit and, if no point was scanned, with no point. -/
def Ends (fraction : Option (List Char)) (tail : List Char) : Prop :=
  ∀ c ∈ tail.head?, c.isDigit = false ∧ (fraction = none → c ≠ '.')

theorem ends_exponent {e : Exponent} (h : e.WellFormed) (fraction : Option (List Char)) (rest : List Char) :
    Ends fraction (e.text ++ rest) := by
  intro c hc
  obtain rfl : e.mark = c := Option.some.inj hc
  rcases h.mark with mark | mark <;> rw [mark] <;> exact ⟨by decide, fun _ => by decide⟩

theorem ends_exponentText (h : n.WellFormed) (stop : IsBreak rest) (fraction : Option (List Char)) :
    Ends fraction (n.exponentText ++ rest) := by
  rw [exponentText]
  cases he : n.exponent with
  | none => exact fun c hc => ⟨stop.isDigit c hc, fun _ => (stop c hc).2⟩
  | some e => exact ends_exponent (h.exponent e he) fraction rest

section
variable {whole tail : List Char} {fraction : Option (List Char)}
  (hw : ∀ c ∈ whole, c.isDigit = true) (hf : ∀ digits ∈ fraction, ∀ c ∈ digits, c.isDigit = true)
  (ends : Ends fraction tail)
include hf ends

theorem scanFraction_pointText : scanFraction (pointText fraction ++ tail) = (fraction, tail) := by
  cases fraction with
  | none =>
    rw [pointText, List.nil_append]
    unfold scanFraction
    split
    · exact absurd rfl ((ends '.' rfl).2 rfl)
    · rfl
  | some digits =>
    have inside := hf digits rfl
    have stop (c : Char) (hc : c ∈ tail.head?) := (ends c hc).1
    rw [pointText, List.cons_append, scanFraction, takeWhile_append_stop inside stop,
      dropWhile_append_stop inside stop]

omit hf in
theorem isDigit_head_pointText {c : Char} (hc : c ∈ (pointText fraction ++ tail).head?) : c.isDigit = false := by
  cases fraction with
  | none => exact (ends c hc).1
  | some digits =>
    cases hc
    rfl

include hw

theorem scan_append_of_ends (some : whole ++ fraction.getD [] ≠ []) :
    scan (whole ++ (pointText fraction ++ tail)) =
      (⟨whole, fraction, (Exponent.scan tail).1⟩, (Exponent.scan tail).2) := by
  have stop (c : Char) := isDigit_head_pointText ends (c := c)
  rw [scan]
  simp only [takeWhile_append_stop hw stop, dropWhile_append_stop hw stop, scanFraction_pointText hf ends]
  exact if_neg some

end

/-- Exact round trip of a literal in front of a break. -/
theorem scan_text_append (h : n.WellFormed) (stop : IsBreak rest) : scan (n.text ++ rest) = (n, rest) := by
  have cut : n.text ++ rest = n.whole ++ (pointText n.fraction ++ (n.exponentText ++ rest)) := by
    simp [text, exponentText]
  rw [cut, scan_append_of_ends h.whole h.fraction (ends_exponentText h stop _) h.nonempty,
    scan_exponentText h stop]

theorem digits_scanFraction {cs digits : List Char} (h : (scanFraction cs).1 = some digits) :
    ∀ c ∈ digits, c.isDigit = true := by
  unfold scanFraction at h
  split at h
  · cases h
    exact fun c hc => List.mem_takeWhile_imp hc
  · cases h

theorem length_scanFraction_le (cs : List Char) : (scanFraction cs).2.length ≤ cs.length := by
  conv_rhs => rw [← scanFraction_append cs, List.length_append]
  exact Nat.le_add_left _ _

theorem ends_some {cs digits : List Char} (stop : ∀ c ∈ cs.head?, c.isDigit = false) : Ends (some digits) cs :=
  fun c hc => ⟨stop c hc, nofun⟩

theorem ends_scanFraction {cs : List Char} (stop : ∀ c ∈ cs.head?, c.isDigit = false) :
    Ends (scanFraction cs).1 (scanFraction cs).2 := by
  unfold scanFraction
  split
  · next digits =>
    intro c hc
    have head := digits.head?_dropWhile_not Char.isDigit
    rw [Option.mem_def.mp hc] at head
    exact ⟨head, nofun⟩
  · next noPoint =>
    intro c hc
    refine ⟨stop c hc, fun _ => ?_⟩
    rintro rfl
    obtain ⟨tail, rfl⟩ := List.head?_eq_some_iff.mp hc
    exact noPoint tail rfl

private theorem isDigit_of_mem_takeWhile {cs : List Char} : ∀ c ∈ cs.takeWhile Char.isDigit, c.isDigit = true :=
  fun _ hc => List.mem_takeWhile_imp hc

private theorem isDigit_head_dropWhile {cs : List Char} :
    ∀ c ∈ (cs.dropWhile Char.isDigit).head?, c.isDigit = false := by
  intro c hc
  have head := cs.head?_dropWhile_not Char.isDigit
  rwa [Option.mem_def.mp hc] at head

/-- The scanned literal is the longest one at the head of a text. -/
theorem scan_text_append_longest (h : n.WellFormed) (rest : List Char) :
    (scan (n.text ++ rest)).1.digits ≠ [] ∧ (scan (n.text ++ rest)).2.length ≤ rest.length := by
  obtain ⟨whole, fraction, exponent⟩ := n
  obtain ⟨hw, hf, he, nonempty⟩ := h
  have shorter : (rest.dropWhile Char.isDigit).length ≤ rest.length := (List.dropWhile_sublist _).length_le
  cases exponent with
  | some e =>
    have cut : text ⟨whole, fraction, some e⟩ ++ rest = whole ++ (pointText fraction ++ (e.text ++ rest)) := by
      simp [text]
    have ends : Ends fraction (e.text ++ rest) := ends_exponent (he e rfl) fraction rest
    rw [cut, scan_append_of_ends hw hf ends nonempty, Exponent.scan_text_append_digits (he e rfl)]
    exact ⟨nonempty, shorter⟩
  | none =>
    cases fraction with
    | some digits =>
      have cut : text ⟨whole, some digits, none⟩ ++ rest = whole ++
          (pointText (some (digits ++ rest.takeWhile Char.isDigit)) ++ rest.dropWhile Char.isDigit) := by
        simp [text, pointText]
      have more : whole ++ (digits ++ rest.takeWhile Char.isDigit) ≠ [] := by
        rw [← List.append_assoc]
        exact List.append_ne_nil_of_left_ne_nil nonempty _
      have inside : ∀ ds ∈ some (digits ++ rest.takeWhile Char.isDigit), ∀ c ∈ ds, c.isDigit = true := by
        rintro _ ⟨⟩
        exact List.forall_mem_append.mpr ⟨hf digits rfl, isDigit_of_mem_takeWhile⟩
      have ends : Ends (some (digits ++ rest.takeWhile Char.isDigit)) (rest.dropWhile Char.isDigit) :=
        ends_some isDigit_head_dropWhile
      rw [cut, scan_append_of_ends hw inside ends more]
      exact ⟨more, (Exponent.length_scan_le _).trans shorter⟩
    | none =>
      have cut : text ⟨whole, none, none⟩ ++ rest = (whole ++ rest.takeWhile Char.isDigit) ++
          (pointText (scanFraction (rest.dropWhile Char.isDigit)).1 ++
            (scanFraction (rest.dropWhile Char.isDigit)).2) := by
        rw [scanFraction_append, List.append_assoc, List.takeWhile_append_dropWhile]
        simp [text, pointText]
      have more : whole ++ rest.takeWhile Char.isDigit ≠ [] := by
        refine List.append_ne_nil_of_left_ne_nil ?_ _
        rwa [digits, Option.getD_none, List.append_nil] at nonempty
      have stop : ∀ c ∈ (rest.dropWhile Char.isDigit).head?, c.isDigit = false := isDigit_head_dropWhile
      have ends := ends_scanFraction stop
      rw [cut, scan_append_of_ends (List.forall_mem_append.mpr ⟨hw, isDigit_of_mem_takeWhile⟩)
        (fun _ => digits_scanFraction) ends (List.append_ne_nil_of_left_ne_nil more _)]
      exact ⟨List.append_ne_nil_of_left_ne_nil more _,
        (Exponent.length_scan_le _).trans ((length_scanFraction_le _).trans shorter)⟩

theorem scan_text (h : n.WellFormed) : scan n.text = (n, []) := by
  have whole := scan_text_append h isBreak_nil
  rwa [List.append_nil] at whole

theorem wellFormed_of_scan {cs : List Char} (cut : scan cs = (n, rest)) (some : n.digits ≠ []) : n.WellFormed := by
  have fields : n = ⟨cs.takeWhile Char.isDigit, (scanFraction (cs.dropWhile Char.isDigit)).1,
      (Exponent.scan (scanFraction (cs.dropWhile Char.isDigit)).2).1⟩ := by
    simp only [scan] at cut
    split at cut
    · next none =>
      cases cut
      exact absurd none some
    · cases cut
      rfl
  refine ⟨?_, ?_, ?_, some⟩
  · rw [fields]
    exact fun c hc => List.mem_takeWhile_imp hc
  · rw [fields]
    exact fun digits hd => digits_scanFraction hd
  · rw [fields]
    exact fun e he => Exponent.wellFormed_of_scan he

theorem text_append_of_scan {cs : List Char} (cut : scan cs = (n, rest)) : n.text ++ rest = cs := by
  have whole := scan_append cs
  rwa [cut] at whole

theorem head_text (h : n.WellFormed) {c : Char} (hc : c ∈ n.text.head?) : c.isDigit = true ∨ c = '.' := by
  obtain ⟨whole, fraction, exponent⟩ := n
  cases whole with
  | cons d whole =>
    obtain rfl : d = c := Option.some.inj hc
    exact .inl (h.whole d List.mem_cons_self)
  | nil =>
    cases fraction with
    | none => exact absurd rfl h.nonempty
    | some digits =>
      cases hc
      exact .inr rfl

theorem head_of_scan {c : Char} {cs : List Char} (cut : scan (c :: cs) = (n, rest)) (some : n.digits ≠ []) :
    c.isDigit = true ∨ c = '.' := by
  have text := text_append_of_scan cut
  obtain ⟨d, body, split⟩ := List.exists_cons_of_ne_nil (text_ne_nil some)
  rw [split] at text
  cases text
  exact head_text (wellFormed_of_scan cut some) (by rw [split]; rfl)

/-- The only character in the text of a literal that is neither a letter, a digit nor a point is the sign
of the exponent, after the mark. -/
theorem sign_of_text_eq (h : n.WellFormed) {pre post : List Char} {c : Char} (cut : n.text = pre ++ c :: post)
    (other : c.isAlphanum = false) (point : c ≠ '.') :
    (c = '+' ∨ c = '-') ∧ ∃ m ∈ pre.getLast?, m = 'e' ∨ m = 'E' := by
  have number : c ∉ n.whole ++ pointText n.fraction := by
    have digit {digits : List Char} (inside : ∀ d ∈ digits, d.isDigit = true) : c ∉ digits := fun hc => by
      cases (isAlphanum_of_isDigit (inside c hc)).symm.trans other
    rw [List.mem_append, not_or]
    refine ⟨digit h.whole, ?_⟩
    cases hf : n.fraction with
    | none => exact List.not_mem_nil
    | some digits => exact List.not_mem_cons_of_ne_of_not_mem point (digit (h.fraction digits hf))
  have exponent {front : List Char} (tail : n.exponentText = front ++ c :: post) :
      (c = '+' ∨ c = '-') ∧ ∃ m, front = [m] ∧ (m = 'e' ∨ m = 'E') := by
    rw [exponentText] at tail
    cases he : n.exponent with
    | none =>
      rw [he] at tail
      exact absurd tail.symm (List.append_ne_nil_of_right_ne_nil front (List.cons_ne_nil c post))
    | some e =>
      rw [he] at tail
      obtain ⟨sign, single⟩ := Exponent.sign_of_text_eq (h.exponent e he) tail other
      exact ⟨sign, e.mark, single, (h.exponent e he).mark⟩
  rcases List.append_eq_append_iff.mp (show (n.whole ++ pointText n.fraction) ++ n.exponentText = _ from cut) with
    ⟨front, rfl, tail⟩ | ⟨front, whole, tail⟩
  · obtain ⟨sign, m, rfl, mark⟩ := exponent tail
    exact ⟨sign, m, List.getLast?_concat, mark⟩
  · rcases front with _ | ⟨d, front⟩
    · obtain ⟨_, _, none, _⟩ := exponent (show n.exponentText = [] ++ c :: post from tail.symm)
      cases none
    · obtain rfl := List.head_eq_of_cons_eq tail
      exact absurd (whole ▸ List.mem_append_right pre List.mem_cons_self) number

theorem visible_text (h : n.WellFormed) : ∀ c ∈ n.text, isBlank c = false := by
  have digit {c : Char} (hc : c.isDigit = true) : isBlank c = false :=
    (isPlain_of_isAlphanum (isAlphanum_of_isDigit hc)).visible
  have point : ∀ c ∈ pointText n.fraction, isBlank c = false := by
    cases hf : n.fraction with
    | none => exact nofun
    | some digits => exact List.forall_mem_cons.mpr ⟨by decide, fun c hc => digit (h.fraction digits hf c hc)⟩
  have exponent : ∀ c ∈ n.exponentText, isBlank c = false := by
    rw [exponentText]
    cases he : n.exponent with
    | none => exact nofun
    | some e => exact fun c hc => Exponent.visible_text (h.exponent e he) c hc
  intro c hc
  rw [text, List.mem_append, List.mem_append] at hc
  rcases hc with (hc | hc) | hc
  · exact digit (h.whole c hc)
  · exact point c hc
  · exact exponent c hc

end Numeral
end Worksheet
