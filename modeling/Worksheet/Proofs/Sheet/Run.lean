import Worksheet.Proofs.Sheet.Refusal

/-! Runs of a sheet, from the empty one through edits, saves and reloads. Every reachable sheet is
consistent. -/
namespace Worksheet

inductive Command
  | enter (given raw : String)
  | save
  /-- Loads the pairs of the sheet; if a pair is refused, the sheet remains unchanged. -/
  | reload

namespace Sheet

def perform (s : Sheet) : Command → Sheet
  | .enter given raw => (s.enter given raw).sheet
  | .save => s.save
  | .reload => match (ofPairs s.config s.toPairs).1 with
    | .ok loaded => loaded
    | .error _ => s

/-- The sheet after a sequence of commands, some of which may be refused. -/
def run (s : Sheet) (commands : List Command) : Sheet := commands.foldl perform s

theorem ofPairs_eq_ok {config : Config} {pairs : List (String × String)} {t : Sheet} :
    (ofPairs config pairs).1 = .ok t ↔
      ∃ loaded, ((Sheet.empty config).enterAll pairs).1 = .ok loaded ∧ t = loaded.save := by
  change ((Sheet.empty config).enterAll pairs).1.map Sheet.save = .ok t ↔ _
  cases ((Sheet.empty config).enterAll pairs).1 with
  | error fault => simp [Except.map]
  | ok loaded => simp [Except.map, eq_comm]

section
variable {P : Sheet → Prop} (enter : ∀ s given raw, P s → P (s.enter given raw).sheet)
include enter

theorem enterAll_induction {s t : Sheet} {pairs : List (String × String)} (hp : P s)
    (h : (s.enterAll pairs).1 = .ok t) : P t := by
  induction pairs generalizing s with
  | nil =>
    cases h
    exact hp
  | cons pair pairs ih =>
    rw [enterAll] at h
    cases ho : (s.enter pair.1 pair.2).outcome with
    | error fault =>
      simp only [ho] at h
      cases h
    | ok names =>
      simp only [ho] at h
      exact ih (enter s pair.1 pair.2 hp) h

/-- Induction over runs: a property of all empty sheets that edits and saves preserve holds of every
reachable sheet. Reloads are loads into an empty sheet, so they need no separate case. -/
theorem run_induction (empty : ∀ s, P s → P (.empty s.config)) (save : ∀ s, P s → P s.save) {config : Config}
    (start : P (.empty config)) (commands : List Command) : P ((Sheet.empty config).run commands) := by
  induction commands using List.reverseRecOn with
  | nil => exact start
  | append_singleton commands command ih =>
    rw [run, List.foldl_append]
    change P (((Sheet.empty config).run commands).perform command)
    cases command with
    | enter given raw => exact enter _ given raw ih
    | save => exact save _ ih
    | reload =>
      rw [perform]
      split
      · next loaded h =>
        obtain ⟨unsaved, hl, rfl⟩ := ofPairs_eq_ok.mp h
        exact save unsaved (enterAll_induction enter (empty _ ih) hl)
      · exact ih

end

namespace Consistent
variable {s t : Sheet}

theorem save (hs : s.Consistent) : s.save.Consistent :=
  ⟨hs.graph, hs.wellFounded, hs.named, hs.admitted, hs.settled⟩

theorem enterAll (hs : s.Consistent) {pairs : List (String × String)} (h : (s.enterAll pairs).1 = .ok t) :
    t.Consistent ∧ t.config = s.config := by
  refine enterAll_induction (P := fun u => u.Consistent ∧ u.config = s.config) ?_ ⟨hs, rfl⟩ h
  exact fun u given raw hu => ⟨hu.1.enter given raw, (hu.1.enter_config given raw).trans hu.2⟩

theorem perform (hs : s.Consistent) (command : Command) :
    (s.perform command).Consistent ∧ (s.perform command).config = s.config := by
  cases command with
  | enter given raw => exact ⟨hs.enter given raw, hs.enter_config given raw⟩
  | save => exact ⟨hs.save, rfl⟩
  | reload =>
    rw [Sheet.perform]
    split
    · next loaded h =>
      obtain ⟨unsaved, hl, rfl⟩ := ofPairs_eq_ok.mp h
      obtain ⟨consistent, same⟩ := (Consistent.empty s.config).enterAll hl
      exact ⟨consistent.save, same⟩
    · exact ⟨hs, rfl⟩

theorem run (hs : s.Consistent) (commands : List Command) :
    (s.run commands).Consistent ∧ (s.run commands).config = s.config := by
  induction commands generalizing s with
  | nil => exact ⟨hs, rfl⟩
  | cons command commands ih =>
    obtain ⟨consistent, same⟩ := hs.perform command
    rw [← same]
    exact ih consistent

end Consistent

theorem run_consistent (config : Config) (commands : List Command) :
    ((Sheet.empty config).run commands).Consistent :=
  ((Consistent.empty config).run commands).1

theorem run_config (config : Config) (commands : List Command) :
    ((Sheet.empty config).run commands).config = config :=
  ((Consistent.empty config).run commands).2

end Sheet
end Worksheet
