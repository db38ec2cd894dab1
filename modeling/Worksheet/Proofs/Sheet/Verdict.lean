import Worksheet.Proofs.Sheet.Run

/-! The outcome of an edit in every reachable sheet. A refused edit has no effect, and the verdict
depends only on the names reachable from the edited cell. -/
namespace Worksheet.Sheet
variable {s t : Sheet} {given raw cell : String}

/-- Reachability from a cell does not depend on its contents. -/
theorem leads_iff_of_contents (hs : s.graph.Represents s.cells.references)
    (ht : t.graph.Represents t.cells.references)
    (others : ∀ n, n ≠ cell → t.cells.contents n = s.cells.contents n) {x : String} :
    t.graph.Leads cell x ↔ s.graph.Leads cell x := by
  apply Graph.leads_congr
  intro p n hn
  rw [ht.hasEdge_iff, hs.hasEdge_iff, Cells.mem_references, Cells.mem_references, others n hn]

theorem Updated.leads_iff {contents : Contents} {order : List String} (h : s.Updated t cell contents order)
    (hs : s.Consistent) {x : String} : t.graph.Leads cell x ↔ s.graph.Leads cell x :=
  leads_iff_of_contents hs.graph h.graph fun n other => by rw [h.contents, if_neg other]

theorem Updated.mem_iff {contents : Contents} {order : List String} (h : s.Updated t cell contents order)
    (hs : s.Consistent) {x : String} :
    x ∈ (Std.ExtTreeSet.ofList order : NameSet) ↔ s.graph.Leads cell x := by
  rw [NameSet.mem_ofList, h.ordered.mem_iff, h.leads_iff hs]

/-- Two sheets with the same names reachable from a cell give the same outcome to its edits. -/
theorem Consistent.outcome_congr (hs : s.Consistent) (ht : t.Consistent) (config : t.config = s.config)
    (leads : ∀ x, t.graph.Leads (s.config.normalize given) x ↔ s.graph.Leads (s.config.normalize given) x) :
    (t.enter given raw).outcome = (s.enter given raw).outcome := by
  rcases hs.enter_cases given raw with ⟨fault, hf, he⟩ | ⟨_, _, order, free, _, _, he, hu⟩
  · rw [he, ht.enter_of_refuses (hf.transfer config fun x => (leads x).mpr)]
  · rcases ht.enter_cases given raw with ⟨fault, hf, _⟩ | ⟨_, _, order', _, _, _, he', hu'⟩
    · refine absurd (hf.transfer config.symm fun x => ?_) (free fault)
      rw [config]
      exact (leads x).mp
    · rw [he, he']
      refine congrArg Except.ok (Std.ExtTreeSet.ext_mem fun x => ?_)
      rw [hu.mem_iff hs, hu'.mem_iff ht, config, leads]

theorem Consistent.contents_enter (hs : s.Consistent) (given raw : String) {n : String}
    (other : n ≠ s.config.normalize given) :
    (s.enter given raw).sheet.cells.contents n = s.cells.contents n := by
  rcases hs.enter_cases given raw with ⟨_, _, he⟩ | ⟨_, _, _, _, _, _, he, hu⟩
  · rw [he]
  · rw [he, hu.contents, if_neg other]

/-- The verdict does not depend on the previous contents of the edited cell. -/
theorem Consistent.outcome_enter (hs : s.Consistent) (given raw old : String) :
    ((s.enter given old).sheet.enter given raw).outcome = (s.enter given raw).outcome := by
  have consistent := hs.enter given old
  apply hs.outcome_congr consistent (hs.enter_config given old)
  exact fun x => leads_iff_of_contents hs.graph consistent.graph fun n => hs.contents_enter given old

theorem Refuses.exists_formula {name : String} (h : s.Refuses given raw (.circular name)) :
    ∃ f, s.config.readEntry raw = .ok (.formula f) := by
  cases h with
  | circular _ _ marked read _ _ => exact ⟨_, Config.readEntry_eq_formula.mpr ⟨_, marked, read⟩⟩

/-- A refused edit leaves the sheet unchanged, so later commands have the same results as without it. -/
theorem run_refused_unchanged (config : Config) (commands : List Command) (given raw : String)
    {fault : Fault} :
    let s := (Sheet.empty config).run commands
    (s.enter given raw).outcome = .error fault →
      (s.enter given raw).sheet = s ∧ ∀ later, s.run (.enter given raw :: later) = s.run later := by
  intro s h
  have hs := run_consistent config commands
  have same : (s.enter given raw).sheet = s := by
    rw [hs.enter_of_refuses (hs.outcome_eq_error_iff.mp h)]
  refine ⟨same, fun later => ?_⟩
  calc s.run (.enter given raw :: later)
    _ = (s.enter given raw).sheet.run later := rfl
    _ = s.run later := by rw [same]

/-- The replacement of the references of the cell is undone after the cycle is found. -/
theorem run_refused_circle :
    let s := (Sheet.empty {}).run [.enter "B1" "=C1+1", .enter "C1" "=A1+2"]
    (s.enter "C1" "=D1+E1*B1").outcome = .error (.circular "C1") ∧
      (s.enter "C1" "=D1+E1*B1").sheet = s := by
  have refused : (((Sheet.empty {}).run [.enter "B1" "=C1+1", .enter "C1" "=A1+2"]).enter "C1"
      "=D1+E1*B1").outcome = .error (.circular "C1") := by
    decide +kernel
  exact ⟨refused, (run_refused_unchanged {} _ "C1" "=D1+E1*B1" refused).1⟩

/-- The outcome of an edit is a fault exactly if that fault is a reason for refusal, judged on the graph
before the edit. Otherwise the edit is accepted. Only formulas close cycles, and the previous contents of
the cell have no influence. -/
theorem run_enter_outcome (config : Config) (commands : List Command) (given raw : String) :
    let s := (Sheet.empty config).run commands
    (∀ fault, (s.enter given raw).outcome = .error fault ↔ s.Refuses given raw fault) ∧
    ((∃ names, (s.enter given raw).outcome = .ok names) ↔ ∀ fault, ¬ s.Refuses given raw fault) ∧
    (∀ contents cell, config.readEntry raw = .ok contents → contents.formula? = none →
      (s.enter given raw).outcome ≠ .error (.circular cell)) ∧
    (∀ old, ((s.enter given old).sheet.enter given raw).outcome = (s.enter given raw).outcome) ∧
    (s.enter given raw).outcome ≠ .error .emptyIdentifier ∧
    ∀ id, (s.enter given raw).outcome ≠ .error (.noSuchCell id) := by
  intro s
  have hs := run_consistent config commands
  have verdict (fault : Fault) : (s.enter given raw).outcome = .error fault ↔ s.Refuses given raw fault :=
    hs.outcome_eq_error_iff
  refine ⟨verdict, ?_, ?_, hs.outcome_enter given raw, ?_, ?_⟩
  · constructor
    · rintro ⟨names, ok⟩ fault hf
      cases ok.symm.trans ((verdict fault).mpr hf)
    · intro free
      rcases hs.enter_cases given raw with ⟨fault, hf, _⟩ | ⟨_, _, _, _, _, _, he, _⟩
      · exact absurd hf (free fault)
      · exact ⟨_, by rw [he]⟩
  · intro contents cell hr plain h
    obtain ⟨f, hf⟩ := ((verdict _).mp h).exists_formula
    rw [run_config] at hf
    cases hr.symm.trans hf
    cases plain
  · intro h
    cases (verdict _).mp h
  · intro id h
    cases (verdict _).mp h

/-- A number has no references, so entering it in a cell with dependents closes no cycle. -/
theorem run_enter_outcome_number :
    let s := (Sheet.empty {}).run [.enter "A1" "=D1*2", .enter "B1" "=A1+1"]
    Config.readEntry {} "5" = .ok (.number 5) ∧ (s.enter "A1" "5").outcome ≠ .error (.circular "A1") := by
  have hr : Config.readEntry {} "5" = .ok (.number 5) := by decide +kernel
  exact ⟨hr, (run_enter_outcome {} _ "A1" "5").2.2.1 _ "A1" hr rfl⟩

end Worksheet.Sheet
