import Worksheet.Proofs.Formula.Grammar

/-! Correctness of the evaluation. The machine processes the tokens of every derivation as a single
operand with the value of the derivation. -/
namespace Worksheet

namespace Derivation

/-- The value of a derivation. The left operand of an operator is evaluated first. -/
def value {c : Category} (lookup : String → Option Float) : Derivation c → Except FormulaFault Float
  | number x => .ok x
  | var name => match lookup name with
    | some x => .ok x
    | none => .error (.undefinedVariable name)
  | group s => s.value lookup
  | factor f => f.value lookup
  | scaled p op _ f => do op.apply (← p.value lookup) (← f.value lookup)
  | product p => p.value lookup
  | shifted s op _ p => do op.apply (← s.value lookup) (← p.value lookup)

end Derivation

theorem Operator.of_apply_eq_error {op : Operator} {left right : Float} {e : FormulaFault}
    (h : op.apply left right = .error e) : op = .divide ∧ (right == 0) = true ∧ e = .divisionByZero := by
  cases op with
  | add | subtract | multiply => cases h
  | divide =>
    rw [apply] at h
    split at h
    · next zero =>
      cases h
      exact ⟨rfl, zero, rfl⟩
    · cases h

/-- The fault of an application is the fault of an operand or a division by zero. -/
theorem Operator.apply_eq_error (op : Operator) {left right : Except FormulaFault Float} {e : FormulaFault}
    (h : (do op.apply (← left) (← right)) = .error e) :
    left = .error e ∨ right = .error e ∨ op = .divide ∧ e = .divisionByZero := by
  rcases Outcome.bind_eq_error.mp h with h | ⟨x, _, h⟩
  · exact .inl h
  · rcases Outcome.bind_eq_error.mp h with h | ⟨y, _, h⟩
    · exact .inr (.inl h)
    · obtain ⟨divides, -, fault⟩ := of_apply_eq_error h
      exact .inr (.inr ⟨divides, fault⟩)

namespace Derivation
variable {c : Category} {lookup : String → Option Float} {e : FormulaFault}

theorem value_eq_error (d : Derivation c) (h : d.value lookup = .error e) :
    (∃ name, .var name ∈ d.tokens ∧ lookup name = none ∧ e = .undefinedVariable name) ∨
      .operator .divide ∈ d.tokens ∧ e = .divisionByZero := by
  induction d with
  | number x => cases h
  | var name =>
    rw [value] at h
    split at h
    · cases h
    · next missing =>
      cases h
      exact .inl ⟨name, List.mem_singleton_self _, missing, rfl⟩
  | group s ih => simpa [tokens] using ih h
  | factor f ih | product f ih => exact ih h
  | scaled p op _ f left right | shifted p op _ f left right =>
    simp only [tokens, List.mem_append, List.mem_cons]
    rcases op.apply_eq_error h with h | h | ⟨rfl, rfl⟩
    · rcases left h with ⟨name, ht, rest⟩ | ⟨ht, rest⟩
      · exact .inl ⟨name, .inl ht, rest⟩
      · exact .inr ⟨.inl ht, rest⟩
    · rcases right h with ⟨name, ht, rest⟩ | ⟨ht, rest⟩
      · exact .inl ⟨name, .inr (.inr ht), rest⟩
      · exact .inr ⟨.inr (.inr ht), rest⟩
    · exact .inr ⟨.inr (.inl rfl), rfl⟩

theorem value_ne_malformed (d : Derivation c) (lookup : String → Option Float) (reason : Malformed) :
    d.value lookup ≠ .error (.malformed reason) := by
  intro h
  rcases d.value_eq_error h with ⟨_, _, _, other⟩ | ⟨_, other⟩ <;> cases other

end Derivation

namespace Machine
variable {lookup : String → Option Float} {m : Machine} {ts us : List Token} {values : List Float}
  {pending : List Pending}

def feedAll (lookup : String → Option Float) (m : Machine) (ts : List Token) : Except FormulaFault Machine :=
  ts.foldlM (feed lookup) m

theorem feedAll_cons (t : Token) :
    m.feedAll lookup (t :: ts) = m.feed lookup t >>= fun m => m.feedAll lookup ts :=
  List.foldlM_cons

theorem feedAll_singleton (t : Token) : m.feedAll lookup [t] = m.feed lookup t := by
  rw [feedAll_cons]
  exact bind_pure _

theorem feedAll_append :
    m.feedAll lookup (ts ++ us) = m.feedAll lookup ts >>= fun m => m.feedAll lookup us :=
  List.foldlM_append

theorem run_eq_feedAll_bind (m : Machine) (ts : List Token) :
    m.run lookup ts = m.feedAll lookup ts >>= result := by
  induction ts generalizing m with
  | nil => rfl
  | cons t ts ih =>
    rw [run_cons, feedAll_cons, bind_assoc]
    exact bind_congr ih

/-- No operator is pending in the innermost open group. -/
def IsClear (pending : List Pending) : Prop := ∀ op outer, pending ≠ .operator op :: outer

/-- No product is pending on top. -/
def IsLoose (pending : List Pending) : Prop :=
  ∀ op outer, pending = .operator op :: outer → op.bindsTight = false

/-- Removes the opening parenthesis and takes the value of its group as an operand, after the sum is
settled. -/
def takeEnclosed (m : Machine) : Except FormulaFault Machine :=
  match m.pending, m.values with
  | .left :: pending, x :: values => takeOperand ⟨values, pending⟩ x
  | _, _ => .error malformed

theorem closeGroup_eq (m : Machine) : m.closeGroup = m.settleSum >>= takeEnclosed := rfl

/-- The remaining value of a machine without pending operators. -/
def only (m : Machine) : Except FormulaFault Float :=
  match m.values, m.pending with
  | [x], [] => .ok x
  | _, _ => .error malformed

theorem result_eq (m : Machine) : m.result = m.settleSum >>= only := rfl

/-- The condition on the pending operators under which a derivation of the category may begin. -/
def Fits (pending : List Pending) : Category → Prop
  | .factor => True
  | .product => IsLoose pending
  | .sum => IsClear pending

/-- The remaining step after the tokens of a category; only a sum has to be settled. -/
def settle : Category → Machine → Except FormulaFault Machine
  | .factor | .product => .ok
  | .sum => settleSum

theorem bind_settle_factor (x : Except FormulaFault Machine) : x >>= settle .factor = x := bind_pure x

theorem bind_settle_product (x : Except FormulaFault Machine) : x >>= settle .product = x := bind_pure x

theorem isClear_nil : IsClear [] := nofun

theorem isClear_left : IsClear (.left :: pending) := nofun

theorem IsClear.isLoose (h : IsClear pending) : IsLoose pending :=
  fun op outer waits => absurd waits (h op outer)

theorem isLoose_operator {op : Operator} (loose : op.bindsTight = false) :
    IsLoose (.operator op :: pending) := by
  rintro _ _ ⟨⟩
  exact loose

theorem takeOperand_of_isLoose (h : IsLoose m.pending) (x : Float) :
    m.takeOperand x = .ok ⟨x :: m.values, m.pending⟩ := by
  rw [takeOperand]
  split
  · next op outer waits => rw [if_neg (Bool.eq_false_iff.mp (h op outer waits))]
  · rfl

theorem takeOperand_of_tight {op : Operator} (tight : op.bindsTight = true) (left right : Float) :
    takeOperand ⟨left :: values, .operator op :: pending⟩ right =
      op.apply left right >>= fun x => .ok ⟨x :: values, pending⟩ :=
  if_pos tight

theorem takeOperator_of_tight {op : Operator} (tight : op.bindsTight = true) :
    m.takeOperator op = .ok ⟨m.values, .operator op :: m.pending⟩ :=
  if_pos tight

theorem takeOperator_of_loose {op : Operator} (loose : op.bindsTight = false) :
    m.takeOperator op = m.settleSum >>= fun m => .ok ⟨m.values, .operator op :: m.pending⟩ :=
  if_neg (Bool.eq_false_iff.mp loose)

theorem settleSum_of_isClear (h : IsClear m.pending) : m.settleSum = .ok m := by
  rw [settleSum]
  split
  · next op outer waits => exact absurd waits (h op outer)
  · rfl

theorem settleSum_of_loose {op : Operator} (loose : op.bindsTight = false) (left right : Float) :
    settleSum ⟨right :: left :: values, .operator op :: pending⟩ =
      op.apply left right >>= fun x => .ok ⟨x :: values, pending⟩ :=
  if_neg (Bool.eq_false_iff.mp loose)

section
variable {value : Except FormulaFault Float} {op : Operator}

theorem feedAll_enclosed (h : feedAll lookup ⟨m.values, .left :: m.pending⟩ ts >>= settle .sum =
      value >>= takeOperand ⟨m.values, .left :: m.pending⟩) :
    m.feedAll lookup (.left :: (ts ++ [.right])) = value >>= m.takeOperand := by
  let inner : Machine := ⟨m.values, .left :: m.pending⟩
  calc m.feedAll lookup (.left :: (ts ++ [.right]))
    _ = inner.feedAll lookup (ts ++ [.right]) := feedAll_cons _
    _ = inner.feedAll lookup ts >>= fun m => m.settleSum >>= takeEnclosed := by
      rw [feedAll_append]
      exact bind_congr fun m => (feedAll_singleton _).trans m.closeGroup_eq
    _ = (value >>= inner.takeOperand) >>= takeEnclosed := by
      rw [← h, bind_assoc]
      rfl
    _ = value >>= m.takeOperand := bind_assoc ..

/-- After a product, a multiplicative operator leaves a pending application for the next factor. -/
theorem feedAll_append_tight (tight : op.bindsTight = true) (fits : IsLoose m.pending)
    (h : m.feedAll lookup ts >>= settle .product = value >>= m.takeOperand) :
    m.feedAll lookup (ts ++ [.operator op]) =
      value >>= fun x => .ok ⟨x :: m.values, .operator op :: m.pending⟩ := by
  rw [bind_settle_product] at h
  rw [feedAll_append, h, bind_assoc]
  refine bind_congr fun x => ?_
  rw [takeOperand_of_isLoose fits]
  exact (feedAll_singleton _).trans (takeOperator_of_tight tight)

/-- After a sum, an additive operator settles it and leaves a pending application for the next
product. -/
theorem feedAll_append_loose (loose : op.bindsTight = false) (fits : IsClear m.pending)
    (h : m.feedAll lookup ts >>= settle .sum = value >>= m.takeOperand) :
    m.feedAll lookup (ts ++ [.operator op]) =
      value >>= fun x => .ok ⟨x :: m.values, .operator op :: m.pending⟩ := by
  let push (m : Machine) : Except FormulaFault Machine := .ok ⟨m.values, .operator op :: m.pending⟩
  calc m.feedAll lookup (ts ++ [.operator op])
    _ = m.feedAll lookup ts >>= fun m => m.settleSum >>= push := by
      rw [feedAll_append]
      exact bind_congr fun m => (feedAll_singleton _).trans (takeOperator_of_loose loose)
    _ = (value >>= m.takeOperand) >>= push := by
      rw [← h, bind_assoc]
      rfl
    _ = value >>= fun x => .ok ⟨x :: m.values, .operator op :: m.pending⟩ := by
      rw [bind_assoc]
      refine bind_congr fun x => ?_
      rw [takeOperand_of_isLoose fits.isLoose]
      rfl

end

/-- Processing the tokens of a derivation is pushing its value. The induction is on the derivation;
`Fits` ensures that the pending operators below are not touched. -/
theorem feedAll_tokens {c : Category} (lookup : String → Option Float) (d : Derivation c)
    (fits : Fits m.pending c) : m.feedAll lookup d.tokens >>= settle c = d.value lookup >>= m.takeOperand := by
  induction d generalizing m with
  | number x =>
    rw [bind_settle_factor, Derivation.tokens, feedAll_singleton]
    rfl
  | var name =>
    rw [bind_settle_factor, Derivation.tokens, feedAll_singleton, feed_var, Derivation.value]
    cases lookup name <;> rfl
  | group s ih =>
    rw [bind_settle_factor]
    exact feedAll_enclosed (ih isClear_left)
  | factor f ih => exact ih trivial
  | scaled p op tight f ihp ihf =>
    rw [Derivation.tokens, List.append_cons, feedAll_append, feedAll_append_tight tight fits (ihp fits),
      Derivation.value, bind_assoc, bind_assoc, bind_assoc]
    refine bind_congr fun x => ?_
    change feedAll lookup ⟨x :: m.values, .operator op :: m.pending⟩ f.tokens >>= settle .factor = _
    rw [ihf trivial, bind_assoc]
    refine bind_congr fun y => ?_
    rw [takeOperand_of_tight tight]
    exact bind_congr fun z => (takeOperand_of_isLoose fits z).symm
  | product p ih =>
    have operand := ih fits.isLoose
    rw [bind_settle_product] at operand
    rw [Derivation.tokens, operand, Derivation.value, bind_assoc]
    refine bind_congr fun x => ?_
    rw [takeOperand_of_isLoose fits.isLoose]
    exact settleSum_of_isClear fits
  | shifted s op loose p ihs ihp =>
    have after : IsLoose (.operator op :: m.pending) := isLoose_operator loose
    rw [Derivation.tokens, List.append_cons, feedAll_append, feedAll_append_loose loose fits (ihs fits),
      Derivation.value, bind_assoc, bind_assoc, bind_assoc]
    refine bind_congr fun x => ?_
    have operand := ihp (m := ⟨x :: m.values, .operator op :: m.pending⟩) after
    rw [bind_settle_product] at operand
    change feedAll lookup ⟨x :: m.values, .operator op :: m.pending⟩ p.tokens >>= settleSum = _
    rw [operand, bind_assoc, bind_assoc]
    refine bind_congr fun y => ?_
    rw [takeOperand_of_isLoose after]
    change settleSum ⟨y :: x :: m.values, .operator op :: m.pending⟩ = _
    rw [settleSum_of_loose loose]
    exact bind_congr fun z => (takeOperand_of_isLoose fits.isLoose z).symm

end Machine

namespace Formula

theorem evaluate_eq_value {f : Formula} {d : Derivation .sum} (h : d.tokens = f.tokens)
    (lookup : String → Option Float) : f.evaluate lookup = d.value lookup := by
  have fits : Machine.Fits Machine.start.pending .sum := Machine.isClear_nil
  calc f.evaluate lookup
    _ = Machine.start.feedAll lookup d.tokens >>= fun m => m.settleSum >>= Machine.only := by
      rw [evaluate_eq_run, ← h, Machine.run_eq_feedAll_bind]
      exact bind_congr Machine.result_eq
    _ = (d.value lookup >>= Machine.start.takeOperand) >>= Machine.only := by
      rw [← Machine.feedAll_tokens lookup d fits, bind_assoc]
      rfl
    _ = d.value lookup := by cases d.value lookup <;> rfl

theorem exists_evaluate_eq_value (f : Formula) :
    ∃ d : Derivation .sum, d.tokens = f.tokens ∧ ∀ lookup, f.evaluate lookup = d.value lookup := by
  obtain ⟨d, hd⟩ := Token.checkShape_eq_ok_iff_exists.mp f.shape
  exact ⟨d, hd, evaluate_eq_value hd⟩

theorem evaluate_eq_error {f : Formula} {lookup : String → Option Float} {e : FormulaFault}
    (h : f.evaluate lookup = .error e) :
    (∃ name ∈ f.variableNames, lookup name = none ∧ e = .undefinedVariable name) ∨
      .operator .divide ∈ f.tokens ∧ e = .divisionByZero := by
  obtain ⟨d, hd, value⟩ := f.exists_evaluate_eq_value
  simp only [mem_variableNames, ← hd]
  exact d.value_eq_error (value lookup ▸ h)

end Formula
end Worksheet
