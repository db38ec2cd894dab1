import Worksheet.Proofs.Sheet.Recomputation

/-! Stored contents are contents that were read from entered text under normalized names, and they
determine the sheet. -/
namespace Worksheet

namespace Cells

theorem get?_eq (s : Cells) (n : String) :
    s.get? n = if s.contains n then some ⟨s.contents n, s.value n⟩ else none := by
  rw [contains, contents, value]
  cases s.get? n <;> rfl

theorem ext_contents {s t : Cells} (contains : ∀ n, s.contains n = t.contains n)
    (contents : ∀ n, s.contents n = t.contents n) (value : ∀ n, s.value n = t.value n) : s = t := by
  refine get?_injective (funext fun n => ?_)
  rw [get?_eq, get?_eq, contains, contents, value]

end Cells

namespace Sheet
variable {s t : Sheet}

/-- Every stored cell has a normalized name and nonempty contents that were read from some text. -/
structure Entered (s : Sheet) : Prop where
  filled : ∀ n, s.cells.contains n = true → s.cells.contents n ≠ .empty
  normalized : ∀ n, s.cells.contains n = true → ∃ given, s.config.normalize given = n
  read : ∀ n, s.cells.contains n = true → ∃ raw, s.config.readEntry raw = .ok (s.cells.contents n)

theorem Entered.contains_iff (h : s.Entered) (n : String) :
    s.cells.contains n = true ↔ s.cells.contents n ≠ .empty := Cells.contains_iff (h.filled n)

theorem Entered.empty (config : Config) : (Sheet.empty config).Entered := by
  have none (n : String) := Bool.eq_false_iff.mp (contains_empty config n)
  exact ⟨fun n hn => absurd hn (none n), fun n hn => absurd hn (none n), fun n hn => absurd hn (none n)⟩

theorem Entered.save (h : s.Entered) : s.save.Entered := ⟨h.filled, h.normalized, h.read⟩

theorem Updated.entered {given raw : String} {contents : Contents} {order : List String}
    (h : s.Updated t (s.config.normalize given) contents order) (hs : s.Entered)
    (hr : s.config.readEntry raw = .ok contents) : t.Entered := by
  have cases (n : String) (hn : t.cells.contains n = true) :
      n = s.config.normalize given ∧ t.cells.contents n = contents ∧ contents ≠ .empty ∨
        s.cells.contains n = true ∧ t.cells.contents n = s.cells.contents n := by
    rw [h.contains] at hn
    rw [h.contents]
    by_cases target : n = s.config.normalize given
    · rw [if_pos target, Bool.not_eq_true', Bool.eq_false_iff, ne_eq, Contents.isEmpty_iff] at hn
      exact .inl ⟨target, if_pos target, hn⟩
    · rw [if_neg target] at hn
      exact .inr ⟨hn, if_neg target⟩
  refine ⟨fun n hn => ?_, fun n hn => ?_, fun n hn => ?_⟩
  · rcases cases n hn with ⟨_, same, ne⟩ | ⟨old, same⟩
    · rwa [same]
    · rw [same]
      exact hs.filled n old
  · rw [h.config]
    rcases cases n hn with ⟨target, _⟩ | ⟨old, _⟩
    · exact ⟨given, target.symm⟩
    · exact hs.normalized n old
  · rw [h.config]
    rcases cases n hn with ⟨_, same, _⟩ | ⟨old, same⟩
    · exact ⟨raw, same ▸ hr⟩
    · rw [same]
      exact hs.read n old

theorem Entered.enter (h : s.Entered) (hs : s.Consistent) (given raw : String) :
    (s.enter given raw).sheet.Entered := by
  rcases hs.enter_cases given raw with ⟨_, _, he⟩ | ⟨_, _, _, _, _, hr, he, updated⟩
  · rwa [he]
  · rw [he]
    exact updated.entered h hr

theorem Entered.enterAll (h : s.Entered) (hs : s.Consistent) {pairs : List (String × String)}
    (loaded : (s.enterAll pairs).1 = .ok t) : t.Entered := by
  refine (enterAll_induction (P := fun u => u.Consistent ∧ u.Entered) ?_ ⟨hs, h⟩ loaded).2
  exact fun u given raw hu => ⟨hu.1.enter given raw, hu.2.enter hu.1 given raw⟩

theorem run_entered (config : Config) (commands : List Command) :
    ((Sheet.empty config).run commands).Entered := by
  refine (run_induction (P := fun u => u.Consistent ∧ u.Entered) ?_ ?_ ?_ ?_ commands).2
  · exact fun u given raw hu => ⟨hu.1.enter given raw, hu.2.enter hu.1 given raw⟩
  · exact fun u _ => ⟨Consistent.empty u.config, Entered.empty u.config⟩
  · exact fun u hu => ⟨hu.1.save, hu.2.save⟩
  · exact ⟨Consistent.empty config, Entered.empty config⟩

/-- Two consistent sheets with equal contents, configurations and change flags are equal. -/
theorem Consistent.ext (hs : s.Consistent) (ht : t.Consistent) (es : s.Entered) (et : t.Entered)
    (config : s.config = t.config) (changed : s.changed = t.changed)
    (contents : s.cells.contents = t.cells.contents) : s = t := by
  have settled (n : String) : s.cells.value n = (t.cells.contents n).evaluate s.cells.number? := by
    rw [← contents]
    exact hs.settled n
  have cells : s.cells = t.cells := by
    refine Cells.ext_contents (fun n => ?_) (congrFun contents) fun n => ?_
    · rw [Bool.eq_iff_iff, es.contains_iff, et.contains_iff, contents]
    · rw [eq_recomputed ht.wellFounded_refers settled, ht.value_eq_recomputed]
  have graph : s.graph = t.graph := hs.graph.unique (cells ▸ ht.graph)
  cases s
  cases t
  simp_all

end Sheet
end Worksheet
