import Worksheet.Proofs.Sheet.Consistent

/-! The conditions under which an edit is refused, and the result of an edit in either case. -/
namespace Worksheet.Sheet

/-- The reasons for refusing an edit. They are mutually exclusive and ordered: the name, the text, the
references. -/
inductive Refuses (s : Sheet) (given raw : String) : Fault → Prop
  | noName (h : given = "") : Refuses s given raw .emptyCellName
  | invalidName (h : given ≠ "") (invalid : s.config.admits (s.config.normalize given) = false) :
      Refuses s given raw (.invalidName given)
  | malformed {body : List Char} {reason : Malformed} (h : given ≠ "")
      (valid : s.config.admits (s.config.normalize given) = true) (marked : s.config.IsMarked raw body)
      (unread : Formula.ofTextWith s.config.normalize s.config.admits body = .error reason) :
      Refuses s given raw (.formula (.malformed reason))
  | circular {body : List Char} {f : Formula} {p : String} (h : given ≠ "")
      (valid : s.config.admits (s.config.normalize given) = true) (marked : s.config.IsMarked raw body)
      (read : Formula.ofTextWith s.config.normalize s.config.admits body = .ok f)
      (mem : p ∈ f.variableNames) (lead : s.graph.Leads (s.config.normalize given) p) :
      Refuses s given raw (.circular (s.config.normalize given))

/-- A refusal depends on the graph only through the names reachable from the edited cell. -/
theorem Refuses.transfer {s t : Sheet} {given raw : String} {fault : Fault} (config : t.config = s.config)
    (leads : ∀ x, s.graph.Leads (s.config.normalize given) x → t.graph.Leads (s.config.normalize given) x)
    (h : s.Refuses given raw fault) : t.Refuses given raw fault := by
  rw [← config] at leads
  cases h with
  | noName h => exact .noName h
  | invalidName h invalid => exact .invalidName h (config ▸ invalid)
  | malformed h valid marked unread =>
    exact .malformed h (config ▸ valid) (config ▸ marked) (config ▸ unread)
  | circular h valid marked read mem lead =>
    rw [← config] at valid marked read lead ⊢
    exact .circular h valid marked read mem (leads _ lead)

/-- An edit without a reason for refusal has a valid name and readable text, and its references are not
reachable from the cell. -/
theorem exists_contents_of_not_refuses {s : Sheet} {given raw : String}
    (h : ∀ fault, ¬ s.Refuses given raw fault) :
    ∃ contents, s.config.cellName given = .ok (s.config.normalize given) ∧
      s.config.readEntry raw = .ok contents ∧
      ∀ p ∈ contents.precedents, ¬ s.graph.Leads (s.config.normalize given) p := by
  have named : given ≠ "" := fun empty => h _ (.noName empty)
  have valid : s.config.admits (s.config.normalize given) = true := by
    by_contra invalid
    exact h _ (.invalidName named (Bool.eq_false_iff.mpr invalid))
  cases hr : s.config.readEntry raw with
  | error fault =>
    obtain ⟨_, _, marked, unread, _⟩ := Config.readEntry_eq_error.mp hr
    exact absurd (.malformed named valid marked unread) (h _)
  | ok contents =>
    refine ⟨contents, Config.cellName_eq_ok.mpr ⟨named, valid, rfl⟩, rfl, ?_⟩
    intro p hp lead
    obtain ⟨f, rfl, mem⟩ := Contents.mem_precedents.mp hp
    obtain ⟨_, marked, read⟩ := Config.readEntry_eq_formula.mp hr
    exact h _ (.circular named valid marked read mem lead)

/-- The event logged for a refused edit. -/
def refusal (s : Sheet) (given : String) : Fault → Event
  | .formula error => .refusedContents (s.config.normalize given) (.formula error)
  | .circular cell => .refusedContents (s.config.normalize given) (.circular cell)
  | fault => .refusedName given fault

namespace Consistent
variable {s : Sheet} {given raw : String}

theorem enter_of_refuses (hs : s.Consistent) {fault : Fault} (h : s.Refuses given raw fault) :
    s.enter given raw = ⟨.error fault, s, [s.refusal given fault]⟩ := by
  cases h with
  | noName h =>
    have hc : s.config.cellName given = .error .emptyCellName :=
      Config.cellName_eq_error.mpr (.inl ⟨h, rfl⟩)
    rw [Sheet.enter, hc]
    rfl
  | invalidName h invalid =>
    have hc := Config.cellName_eq_error.mpr (.inr ⟨h, invalid, rfl⟩)
    rw [Sheet.enter, hc]
    rfl
  | malformed h valid marked unread =>
    have hc := Config.cellName_eq_ok.mpr ⟨h, valid, rfl⟩
    have hr := Config.readEntry_eq_error.mpr ⟨_, _, marked, unread, rfl⟩
    simp only [Sheet.enter, hc, hr]
    rfl
  | circular h valid marked read mem lead =>
    have hc := Config.cellName_eq_ok.mpr ⟨h, valid, rfl⟩
    have hr := Config.readEntry_eq_formula.mpr ⟨_, marked, read⟩
    exact hs.enter_of_cycle hc hr mem lead

/-- Every edit is refused without effect, or it is accepted with the effect of `Updated`. -/
theorem enter_cases (hs : s.Consistent) (given raw : String) :
    (∃ fault, s.Refuses given raw fault ∧
      s.enter given raw = ⟨.error fault, s, [s.refusal given fault]⟩) ∨
    ∃ contents t order, (∀ fault, ¬ s.Refuses given raw fault) ∧
      s.config.admits (s.config.normalize given) = true ∧ s.config.readEntry raw = .ok contents ∧
      s.enter given raw = ⟨.ok (Std.ExtTreeSet.ofList order), t,
        t.cells.evaluations order ++ [.recalculated (s.config.normalize given) order.length]⟩ ∧
      s.Updated t (s.config.normalize given) contents order := by
  by_cases refused : ∃ fault, s.Refuses given raw fault
  · obtain ⟨fault, hf⟩ := refused
    exact .inl ⟨fault, hf, hs.enter_of_refuses hf⟩
  · have none (fault : Fault) : ¬ s.Refuses given raw fault := fun hf => refused ⟨fault, hf⟩
    obtain ⟨contents, hc, hr, free⟩ := exists_contents_of_not_refuses none
    obtain ⟨t, order, he, updated⟩ := hs.enter_of_free hc hr free
    exact .inr ⟨contents, t, order, none, (Config.cellName_eq_ok.mp hc).2.1, hr, he, updated⟩

theorem outcome_eq_error_iff (hs : s.Consistent) {fault : Fault} :
    (s.enter given raw).outcome = .error fault ↔ s.Refuses given raw fault := by
  constructor
  · intro h
    rcases hs.enter_cases given raw with ⟨fault', hf, he⟩ | ⟨_, _, _, _, _, _, he, _⟩
    · rw [he] at h
      rwa [← Except.error.inj h]
    · rw [he] at h
      cases h
  · intro h
    rw [hs.enter_of_refuses h]

theorem updated_of_outcome (hs : s.Consistent) {names : NameSet}
    (h : (s.enter given raw).outcome = .ok names) :
    ∃ contents order, s.config.readEntry raw = .ok contents ∧ names = Std.ExtTreeSet.ofList order ∧
      s.Updated (s.enter given raw).sheet (s.config.normalize given) contents order ∧
      (s.enter given raw).log = (s.enter given raw).sheet.cells.evaluations order ++
        [.recalculated (s.config.normalize given) order.length] := by
  rcases hs.enter_cases given raw with ⟨_, _, he⟩ | ⟨contents, t, order, _, _, hr, he, updated⟩
  · rw [he] at h
    cases h
  · rw [he] at h ⊢
    exact ⟨contents, order, hr, (Except.ok.inj h).symm, updated, rfl⟩

theorem enter (hs : s.Consistent) (given raw : String) : (s.enter given raw).sheet.Consistent := by
  rcases hs.enter_cases given raw with ⟨_, _, he⟩ | ⟨_, _, _, _, valid, hr, he, updated⟩
  · rwa [he]
  · rw [he]
    exact updated.consistent hs valid (Config.readEntry_admits hr)

theorem enter_config (hs : s.Consistent) (given raw : String) :
    (s.enter given raw).sheet.config = s.config := by
  rcases hs.enter_cases given raw with ⟨_, _, he⟩ | ⟨_, _, _, _, _, _, he, updated⟩
  · rw [he]
  · rw [he]
    exact updated.config

end Consistent
end Worksheet.Sheet
