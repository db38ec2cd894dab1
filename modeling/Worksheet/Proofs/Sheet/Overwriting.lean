import Worksheet.Proofs.Sheet.Loading
import Worksheet.Proofs.Sheet.Verdict

/-! Repeated edits of one cell. The last accepted edit determines the sheet and its outcome,
independently of the earlier contents of that cell. -/
namespace Worksheet

attribute [ext] Edit

namespace Sheet
variable {s t u v : Sheet}

/-- Two sheets with equal contents outside the cell have the same result of an accepted edit. The
contents agree after the edit, and they determine the values. -/
theorem Updated.unique {cell : String} {contents : Contents} {order order' : List String}
    (h : s.Updated u cell contents order) (h' : t.Updated v cell contents order') (hu : u.Consistent)
    (hv : v.Consistent) (eu : u.Entered) (ev : v.Entered) (config : t.config = s.config)
    (others : ∀ n, n ≠ cell → t.cells.contents n = s.cells.contents n) : v = u ∧ order' = order := by
  have same : v = u := by
    refine hv.ext hu ev eu ?_ (h'.changed.trans h.changed.symm) ?_
    · rw [h'.config, h.config, config]
    · funext n
      rw [h'.contents, h.contents]
      split
      · rfl
      · next other => exact others n other
  subst same
  exact ⟨rfl, Except.ok.inj (h'.computed.symm.trans h.computed)⟩

namespace Consistent
variable {given raw other : String} {names names' : NameSet}

/-- The affected names do not depend on the entered text. -/
theorem names_eq (hs : s.Consistent) (h : (s.enter given raw).outcome = .ok names)
    (h' : (s.enter given other).outcome = .ok names') : names = names' := by
  obtain ⟨_, order, _, rfl, updated, _⟩ := hs.updated_of_outcome h
  obtain ⟨_, order', _, rfl, updated', _⟩ := hs.updated_of_outcome h'
  apply Std.ExtTreeSet.ext_mem
  intro x
  rw [updated.mem_iff hs, updated'.mem_iff hs]

/-- If two consistent sheets differ in one cell only, then an accepted edit of this cell yields equal
sheets and equal logs. -/
theorem enter_congr (hs : s.Consistent) (ht : t.Consistent) (es : s.Entered) (et : t.Entered)
    (config : t.config = s.config)
    (others : ∀ n, n ≠ s.config.normalize given → t.cells.contents n = s.cells.contents n)
    (h : (s.enter given raw).outcome = .ok names) : t.enter given raw = s.enter given raw := by
  have outcome : (t.enter given raw).outcome = (s.enter given raw).outcome :=
    hs.outcome_congr ht config fun x => leads_iff_of_contents hs.graph ht.graph others
  obtain ⟨contents, order, hr, _, updated, log⟩ := hs.updated_of_outcome h
  obtain ⟨contents', order', hr', _, updated', log'⟩ := ht.updated_of_outcome (outcome.trans h)
  rw [config] at hr' updated' log'
  cases hr'.symm.trans hr
  obtain ⟨sheet, rfl⟩ := updated.unique updated' (hs.enter given raw) (ht.enter given raw)
    (es.enter hs given raw) (et.enter ht given raw) config others
  rw [sheet, ← log] at log'
  exact Edit.ext outcome sheet log'

theorem enter_own_contents (hs : s.Consistent) (es : s.Entered)
    (hc : s.config.cellName given = .ok (s.config.normalize given))
    (hr : s.config.readEntry raw = .ok (s.contents given)) :
    ∃ names, (s.enter given raw).outcome = .ok names ∧
      (s.enter given raw).sheet = { s with changed := true } := by
  have accepts : s.Accepts [(given, raw)] := fun pair hp => by
    rw [List.mem_singleton.mp hp]
    exact ⟨hc, hr⟩
  cases h : (s.enter given raw).outcome with
  | error fault =>
    have refused := hs.outcome_eq_error_iff.mp h
    exact absurd refused (accepts.not_refuses hs hs rfl (fun n => .inr rfl) fault)
  | ok names =>
    obtain ⟨contents, order, hr', _, updated, _⟩ := hs.updated_of_outcome h
    cases hr'.symm.trans hr
    refine ⟨names, rfl, (hs.enter given raw).ext ?_ (es.enter hs given raw) ?_ updated.config
      updated.changed ?_⟩
    · exact ⟨hs.graph, hs.wellFounded, hs.named, hs.admitted, hs.settled⟩
    · exact ⟨es.filled, es.normalized, es.read⟩
    · funext n
      rw [updated.contents]
      split
      · next target => exact target ▸ rfl
      · rfl

end Consistent

/-- After an accepted edit, a second edit of the same cell has the verdict that it has without the first,
and if it is accepted, the same sheet, outcome and log. Repeating an edit changes nothing, and entering
the previous contents restores the sheet up to its change flag. -/
theorem run_enter_enter (config : Config) (commands : List Command) (given first : String)
    {names : NameSet} :
    let s := (Sheet.empty config).run commands
    let t := (s.enter given first).sheet
    (s.enter given first).outcome = .ok names →
      (∀ second, (t.enter given second).outcome = (s.enter given second).outcome ∧
        ∀ names', (s.enter given second).outcome = .ok names' →
          t.enter given second = s.enter given second) ∧
      ((t.enter given first).outcome = .ok names ∧ (t.enter given first).sheet = t) ∧
      ∀ back, config.readEntry back = .ok (s.contents given) →
        (t.enter given back).outcome = .ok names ∧
          (t.enter given back).sheet = { s with changed := true } := by
  intro s t h
  have hs : s.Consistent := run_consistent config commands
  have es : s.Entered := run_entered config commands
  have again {second : String} {names' : NameSet} (h' : (s.enter given second).outcome = .ok names') :
      t.enter given second = s.enter given second :=
    hs.enter_congr (hs.enter given first) es (es.enter hs given first) (hs.enter_config given first)
      (fun n => hs.contents_enter given first) h'
  refine ⟨fun second => ⟨hs.outcome_enter given second first, fun names' => again⟩, ?_, ?_⟩
  · rw [again h]
    exact ⟨h, rfl⟩
  · intro back hr
    have hc : s.config.cellName given = .ok (s.config.normalize given) := by
      have free (fault : Fault) : ¬ s.Refuses given first fault := fun refused => by
        cases h.symm.trans (hs.outcome_eq_error_iff.mpr refused)
      obtain ⟨_, hc, _⟩ := exists_contents_of_not_refuses free
      exact hc
    rw [← run_config config commands] at hr
    obtain ⟨names', h', unchanged⟩ := hs.enter_own_contents es hc hr
    rw [again h', hs.names_eq h h']
    exact ⟨h', unchanged⟩

/-- After the first edit `A1` refers to absent cells, so `A1` and `C1` have errors; the second edit
restores the sheet. -/
theorem run_enter_enter_back :
    let s := (Sheet.empty {}).run [.enter "A1" "=B1*2", .enter "B1" "3", .enter "C1" "=A1+1", .save]
    let t := (s.enter "a1" "=D1/E1").sheet
    let names : NameSet := .ofList ["A1", "C1"]
    (s.enter "a1" "=D1/E1").outcome = .ok names ∧ t.value "C1" = .error (.undefinedVariable "A1") ∧
      (t.enter "a1" "= b1 * 2").outcome = .ok names ∧
      (t.enter "a1" "= b1 * 2").sheet = { s with changed := true } := by
  intro s t names
  have accepted : (s.enter "a1" "=D1/E1").outcome = .ok names := by decide +kernel
  have broken : t.value "C1" = .error (.undefinedVariable "A1") := by decide +kernel
  have read : Config.readEntry {} "= b1 * 2" = .ok (s.contents "a1") := by decide +kernel
  exact ⟨accepted, broken, (run_enter_enter {} _ "a1" "=D1/E1" accepted).2.2 "= b1 * 2" read⟩

end Sheet
end Worksheet
