/-! Inversion lemmas for computations in `Except`. -/
namespace Worksheet.Outcome
variable {ε α β : Type}

instance decidableEq [DecidableEq ε] [DecidableEq α] : DecidableEq (Except ε α)
  | .ok a, .ok b => decidable_of_iff (a = b) ⟨congrArg Except.ok, Except.ok.inj⟩
  | .error e, .error f => decidable_of_iff (e = f) ⟨congrArg Except.error, Except.error.inj⟩
  | .ok _, .error _ => isFalse nofun
  | .error _, .ok _ => isFalse nofun

theorem bind_eq_ok {x : Except ε α} {f : α → Except ε β} {b : β} :
    x >>= f = .ok b ↔ ∃ a, x = .ok a ∧ f a = .ok b := by
  cases x with
  | error e => exact ⟨nofun, nofun⟩
  | ok a =>
    constructor
    · exact fun h => ⟨a, rfl, h⟩
    · rintro ⟨_, ha, h⟩
      cases ha
      exact h

theorem bind_eq_error {x : Except ε α} {f : α → Except ε β} {e : ε} :
    x >>= f = .error e ↔ x = .error e ∨ ∃ a, x = .ok a ∧ f a = .error e := by
  cases x with
  | error other =>
    refine ⟨fun h => .inl ?_, ?_⟩
    · cases h
      rfl
    · rintro (h | ⟨_, h, _⟩)
      · cases h
        rfl
      · cases h
  | ok a =>
    constructor
    · exact fun h => .inr ⟨a, rfl, h⟩
    · rintro (h | ⟨_, ha, h⟩)
      · cases h
      · cases ha
        exact h

theorem exists_of_mem_mapM {f : α → Except ε β} {xs : List α} {ys : List β}
    (h : xs.mapM f = .ok ys) {y : β} (hy : y ∈ ys) : ∃ x ∈ xs, f x = .ok y := by
  induction xs generalizing ys with
  | nil =>
    cases h
    cases hy
  | cons x xs ih =>
    rw [List.mapM_cons] at h
    obtain ⟨z, hz, h⟩ := bind_eq_ok.mp h
    obtain ⟨zs, hzs, h⟩ := bind_eq_ok.mp h
    cases h
    rcases List.mem_cons.mp hy with rfl | hy
    · exact ⟨x, List.mem_cons_self, hz⟩
    · obtain ⟨x', hx', he⟩ := ih hzs hy
      exact ⟨x', List.mem_cons_of_mem x hx', he⟩

theorem mapM_eq_map {f : α → Except ε β} {g : α → β} {xs : List α} (h : ∀ x ∈ xs, f x = .ok (g x)) :
    xs.mapM f = .ok (xs.map g) := by
  induction xs with
  | nil => rfl
  | cons x xs ih =>
    rw [List.mapM_cons, h x List.mem_cons_self, ih fun y hy => h y (List.mem_cons_of_mem x hy)]
    rfl

theorem mapM_eq_self {f : α → Except ε α} {xs : List α} (h : ∀ x ∈ xs, f x = .ok x) :
    xs.mapM f = .ok xs := by
  rw [mapM_eq_map (g := id) h, List.map_id]

/-- The first failing operation determines the outcome of `mapM`. -/
theorem mapM_eq_error {f : α → Except ε β} {before after : List α} {x : α} {e : ε}
    (first : ∀ y ∈ before, ∃ z, f y = .ok z) (fails : f x = .error e) :
    (before ++ x :: after).mapM f = .error e := by
  induction before with
  | nil =>
    rw [List.nil_append, List.mapM_cons, fails]
    rfl
  | cons y before ih =>
    obtain ⟨⟨z, hz⟩, first⟩ := List.forall_mem_cons.mp first
    rw [List.cons_append, List.mapM_cons, hz, ih first]
    rfl

theorem exists_of_mapM_eq_singleton {f : α → Except ε β} {xs : List α} {y : β} (h : xs.mapM f = .ok [y]) :
    ∃ x, xs = [x] ∧ f x = .ok y := by
  cases xs with
  | nil => cases h
  | cons x xs =>
    rw [List.mapM_cons] at h
    obtain ⟨z, hz, h⟩ := bind_eq_ok.mp h
    obtain ⟨zs, hzs, h⟩ := bind_eq_ok.mp h
    cases h
    cases xs with
    | nil => exact ⟨x, rfl, hz⟩
    | cons x' xs =>
      rw [List.mapM_cons] at hzs
      obtain ⟨_, _, h⟩ := bind_eq_ok.mp hzs
      obtain ⟨_, _, h⟩ := bind_eq_ok.mp h
      cases h

theorem mapError_bind {δ : Type} (g : ε → δ) (x : Except ε α) (f : α → Except ε β) :
    (x >>= f).mapError g = x.mapError g >>= fun a => (f a).mapError g := by
  cases x <;> rfl

/-- If two outcomes agree after mapping their errors, they are equal or both errors. -/
theorem eq_or_error_of_mapError_eq {δ : Type} {g : ε → δ} {x y : Except ε α}
    (h : x.mapError g = y.mapError g) : x = y ∨ ∃ e f, x = .error e ∧ y = .error f ∧ g e = g f := by
  cases x with
  | ok a =>
    cases y with
    | ok b =>
      cases h
      exact .inl rfl
    | error f => cases h
  | error e =>
    cases y with
    | ok b => cases h
    | error f => exact .inr ⟨e, f, rfl, rfl, Except.error.inj h⟩

end Worksheet.Outcome
