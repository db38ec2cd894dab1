import Worksheet.Proofs.Formula.Value

/-! The stacks during the evaluation of a formula. In each open group at most one sum and above it at
most one product are pending, and each pending operator has its left operand on the value stack; hence no
operand is missing when an operator is applied. -/
namespace Worksheet

namespace Token
variable {depth : Nat} {operand : Bool} {t : Token} {ts : List Token}

/-- The tokens complete a formula with `depth` open parentheses. The flag states whether the preceding
token ends an operand. -/
def Completes (depth : Nat) (operand : Bool) : List Token → Prop
  | [] => depth = 0 ∧ operand = true
  | t :: ts => t.comesAfterOperand = operand ∧
      ∃ inner, t.depthAfter depth = .ok inner ∧ Completes inner t.endsOperand ts

theorem Closes.completes (h : Closes depth (t :: ts)) (first : t.comesAfterOperand = operand) :
    Completes depth operand (t :: ts) := by
  refine ⟨first, ?_⟩
  induction ts generalizing t depth operand with
  | nil =>
    obtain ⟨closed, last⟩ := closes_singleton.mp h
    exact ⟨0, closed, rfl, last⟩
  | cons next ts ih =>
    obtain ⟨inner, within, pair, rest⟩ := closes_cons.mp h
    exact ⟨inner, within, pair, ih rest pair⟩

theorem completes_of_checkShape (h : checkShape ts = .ok ()) : Completes 0 false ts := by
  cases ts with
  | nil => cases h
  | cons t ts =>
    obtain ⟨begins, closes⟩ := checkShape_eq_ok.mp h
    rw [beginsOperand_eq, Bool.not_eq_true'] at begins
    exact closes.completes begins

theorem depthAfter_right {inner : Nat} (h : right.depthAfter depth = .ok inner) : depth = inner + 1 := by
  cases depth <;> cases h
  rfl

theorem count_depthAfter {inner : Nat} (h : t.depthAfter depth = .ok inner) :
    inner + [t].countP (· = .right) = depth + [t].countP (· = .left) := by
  cases t with
  | left =>
    cases h
    rfl
  | right => exact (depthAfter_right h).symm
  | number _ | var _ | operator _ =>
    cases h
    rfl

end Token

theorem Operator.apply_of_loose {op : Operator} (loose : op.bindsTight = false) (left right : Float) :
    ∃ x, op.apply left right = .ok x := by
  cases op with
  | add | subtract => exact ⟨_, rfl⟩
  | multiply | divide => cases loose

def Pending.isOperator : Pending → Bool
  | .operator _ => true
  | .left => false

@[simp] theorem Pending.countP_operator (op : Operator) (pending : List Pending) :
    (.operator op :: pending).countP isOperator = pending.countP isOperator + 1 :=
  List.countP_cons_of_pos rfl

@[simp] theorem Pending.countP_left (pending : List Pending) :
    (.left :: pending).countP isOperator = pending.countP isOperator :=
  List.countP_cons_of_neg Bool.false_ne_true

namespace Machine
variable {m m' : Machine} {lookup : String → Option Float} {operand : Bool} {pending : List Pending}

/-- At the bottom and above each open parenthesis, at most one sum is pending, and above it at most one
product. -/
inductive Layered : List Pending → Prop
  | bottom : Layered []
  | left {outer : List Pending} (below : Layered outer) : Layered (.left :: outer)
  | sum {op : Operator} {outer : List Pending} (loose : op.bindsTight = false) (first : IsClear outer)
      (below : Layered outer) : Layered (.operator op :: outer)
  | product {op : Operator} {outer : List Pending} (tight : op.bindsTight = true) (first : IsLoose outer)
      (below : Layered outer) : Layered (.operator op :: outer)

/-- The invariant of the stacks. The flag states whether the last token ended an operand; in that case no
product is pending and the value stack holds one additional value. -/
structure Orderly (m : Machine) (operand : Bool) : Prop where
  layered : Layered m.pending
  loose : operand = true → IsLoose m.pending
  values : m.values.length = m.pending.countP Pending.isOperator + operand.toNat

namespace Orderly

theorem start : Machine.start.Orderly false := ⟨.bottom, nofun, rfl⟩

theorem takeOperand (h : m.Orderly false) (x : Float) :
    (∃ m', m.takeOperand x = .ok m' ∧ m'.Orderly true ∧ m'.pending.count .left = m.pending.count .left) ∨
      m.takeOperand x = .error .divisionByZero := by
  obtain ⟨values, waits⟩ := m
  obtain ⟨layered, -, count⟩ := h
  dsimp only at layered count
  have push (loose : IsLoose waits) : ∃ m', Machine.takeOperand ⟨values, waits⟩ x = .ok m' ∧ m'.Orderly true ∧
      m'.pending.count .left = waits.count .left :=
    ⟨_, takeOperand_of_isLoose loose x, ⟨layered, fun _ => loose, by simp [count]⟩, rfl⟩
  cases layered with
  | bottom => exact .inl (push isClear_nil.isLoose)
  | left below => exact .inl (push isClear_left.isLoose)
  | sum loose first below => exact .inl (push (isLoose_operator loose))
  | @product op outer tight first below =>
    cases values with
    | nil => simp at count
    | cons left values =>
      rw [takeOperand_of_tight tight]
      cases applied : op.apply left x with
      | ok y =>
        refine .inl ⟨⟨y :: values, outer⟩, rfl, ⟨below, fun _ => first, ?_⟩, ?_⟩
        · simpa using count
        · simp
      | error e =>
        obtain ⟨-, -, rfl⟩ := Operator.of_apply_eq_error applied
        exact .inr rfl

/-- After an operand, settling succeeds and preserves the invariant. -/
theorem settleSum (h : m.Orderly true) :
    ∃ m', m.settleSum = .ok m' ∧ m'.Orderly true ∧ IsClear m'.pending ∧
      m'.pending.count .left = m.pending.count .left := by
  obtain ⟨values, waits⟩ := m
  obtain ⟨layered, loose, count⟩ := h
  dsimp only at layered loose count
  have clear (none : IsClear waits) : ∃ m', Machine.settleSum ⟨values, waits⟩ = .ok m' ∧ m'.Orderly true ∧
      IsClear m'.pending ∧ m'.pending.count .left = waits.count .left :=
    ⟨_, settleSum_of_isClear none, ⟨layered, loose, count⟩, none, rfl⟩
  cases layered with
  | bottom => exact clear isClear_nil
  | left below => exact clear isClear_left
  | @sum op outer waiting first below =>
    obtain ⟨right, left, values, rfl⟩ : ∃ right left rest, values = right :: left :: rest := by
      rcases values with _ | ⟨right, _ | ⟨left, rest⟩⟩
      · simp at count
      · simp at count
      · exact ⟨right, left, rest, rfl⟩
    obtain ⟨x, applied⟩ := Operator.apply_of_loose waiting left right
    refine ⟨⟨x :: values, outer⟩, ?_, ⟨below, fun _ => first.isLoose, ?_⟩, first, ?_⟩
    · rw [settleSum_of_loose waiting, applied]
      rfl
    · simpa using count
    · simp
  | product tight first below => cases tight.symm.trans (loose rfl _ _ rfl)

theorem takeOperator (h : m.Orderly true) (op : Operator) :
    ∃ m', m.takeOperator op = .ok m' ∧ m'.Orderly false ∧ m'.pending.count .left = m.pending.count .left := by
  cases tight : op.bindsTight with
  | true =>
    refine ⟨_, takeOperator_of_tight tight, ⟨.product tight (h.loose rfl) h.layered, nofun, ?_⟩, by simp⟩
    simp [h.values]
  | false =>
    obtain ⟨settled, done, orderly, clear, same⟩ := h.settleSum
    refine ⟨⟨settled.values, .operator op :: settled.pending⟩, ?_, ⟨.sum tight clear orderly.layered, nofun, ?_⟩,
      by simpa using same⟩
    · rw [takeOperator_of_loose tight, done]
      rfl
    · simp [orderly.values]

theorem openGroup (h : m.Orderly false) : Orderly ⟨m.values, .left :: m.pending⟩ false :=
  ⟨.left h.layered, nofun, by simp [h.values]⟩

/-- After settling, an open parenthesis is on top of the pending operators and its value is on the value
stack. -/
theorem settleSum_enclosed (h : m.Orderly true) (opened : 0 < m.pending.count .left) :
    ∃ x values pending, m.settleSum = .ok ⟨x :: values, .left :: pending⟩ ∧
      Orderly ⟨values, pending⟩ false ∧ pending.count .left + 1 = m.pending.count .left := by
  obtain ⟨⟨values, waits⟩, done, ⟨layered, -, count⟩, clear, same⟩ := h.settleSum
  dsimp only at layered count clear same
  rw [← same] at opened ⊢
  cases layered with
  | bottom => simp at opened
  | @left outer below =>
    cases values with
    | nil => simp at count
    | cons x values =>
      exact ⟨x, values, outer, done, ⟨below, nofun, by simpa using count⟩, by simp⟩
  | @sum op outer _ _ _ => exact absurd rfl (clear op outer)
  | @product op outer _ _ _ => exact absurd rfl (clear op outer)

theorem closeGroup (h : m.Orderly true) (opened : 0 < m.pending.count .left) :
    (∃ m', m.closeGroup = .ok m' ∧ m'.Orderly true ∧
      m'.pending.count .left + 1 = m.pending.count .left) ∨
      m.closeGroup = .error .divisionByZero := by
  obtain ⟨x, values, pending, done, orderly, count⟩ := h.settleSum_enclosed opened
  have taken : m.closeGroup = Machine.takeOperand ⟨values, pending⟩ x := by
    rw [closeGroup_eq, done]
    rfl
  rw [taken, ← count]
  rcases orderly.takeOperand x with ⟨m', ok, after, same⟩ | failed
  · exact .inl ⟨m', ok, after, congrArg (· + 1) same⟩
  · exact .inr failed

theorem result (h : m.Orderly true) (closed : m.pending.count .left = 0) :
    ∃ x, m.settleSum = .ok ⟨[x], []⟩ ∧ m.result = .ok x := by
  obtain ⟨⟨values, waits⟩, done, ⟨layered, -, count⟩, clear, same⟩ := h.settleSum
  dsimp only at layered count clear same
  rw [← same] at closed
  cases layered with
  | bottom =>
    obtain ⟨x, rfl⟩ := List.length_eq_one_iff.mp count
    refine ⟨x, done, ?_⟩
    rw [result_eq, done]
    rfl
  | left below => simp at closed
  | @sum op outer _ _ _ => exact absurd rfl (clear op outer)
  | @product op outer _ _ _ => exact absurd rfl (clear op outer)

/-- A token that may follow preserves the invariant, or has an undefined variable or a division by
zero. -/
theorem feed {t : Token} (h : m.Orderly operand) (follows : t.comesAfterOperand = operand) {inner : Nat}
    (depth : t.depthAfter (m.pending.count .left) = .ok inner) :
    (∃ m', m.feed lookup t = .ok m' ∧ m'.Orderly t.endsOperand ∧ m'.pending.count .left = inner) ∨
      m.feed lookup t = .error .divisionByZero ∨
      ∃ name, t = .var name ∧ lookup name = none ∧ m.feed lookup t = .error (.undefinedVariable name) := by
  subst follows
  cases t with
  | number x =>
    cases depth
    rcases h.takeOperand x with taken | failed
    · exact .inl taken
    · exact .inr (.inl failed)
  | var name =>
    cases depth
    cases found : lookup name with
    | none => exact .inr (.inr ⟨name, rfl, found, by rw [Machine.feed_var, found]⟩)
    | some x =>
      rw [Machine.feed_var, found]
      rcases h.takeOperand x with taken | failed
      · exact .inl taken
      · exact .inr (.inl failed)
  | operator op =>
    cases depth
    exact .inl (h.takeOperator op)
  | left =>
    cases depth
    exact .inl ⟨_, rfl, h.openGroup, List.count_cons_self⟩
  | right =>
    have opened := Token.depthAfter_right depth
    rcases h.closeGroup (by omega) with ⟨m', ok, after, count⟩ | failed
    · exact .inl ⟨m', ok, after, by omega⟩
    · exact .inr (.inl failed)

theorem feedAll {ts rest : List Token} (h : m.Orderly operand)
    (completes : Token.Completes (m.pending.count .left) operand (ts ++ rest))
    (fed : m.feedAll lookup ts = .ok m') :
    m'.Orderly ((ts.getLast?.map Token.endsOperand).getD operand) ∧
      Token.Completes (m'.pending.count .left) ((ts.getLast?.map Token.endsOperand).getD operand) rest ∧
      m'.pending.count .left + ts.countP (· = .right) = m.pending.count .left + ts.countP (· = .left) := by
  induction ts generalizing m operand with
  | nil =>
    cases fed
    exact ⟨h, completes, rfl⟩
  | cons t ts ih =>
    obtain ⟨follows, inner, depth, completes⟩ := completes
    rw [feedAll_cons] at fed
    obtain ⟨next, step, fed⟩ := Outcome.bind_eq_ok.mp fed
    obtain ⟨orderly, same⟩ : next.Orderly t.endsOperand ∧ next.pending.count .left = inner := by
      rcases h.feed follows depth with ⟨m', ok, orderly, same⟩ | failed | ⟨_, _, _, failed⟩
      · cases step.symm.trans ok
        exact ⟨orderly, same⟩
      · cases step.symm.trans failed
      · cases step.symm.trans failed
    have last : ((t :: ts).getLast?.map Token.endsOperand).getD operand =
        (ts.getLast?.map Token.endsOperand).getD t.endsOperand := by
      simp [List.getLast?_cons]
    obtain ⟨after, rest, count⟩ := ih orderly (same ▸ completes) fed
    refine ⟨last ▸ after, last ▸ rest, ?_⟩
    have paired := Token.count_depthAfter depth
    rw [← List.singleton_append, List.countP_append, List.countP_append]
    omega

end Orderly
end Machine

namespace Formula
open Machine

/-- For every formula and every prefix of its tokens that is processed without a fault: the pending
operators are layered, the number of pending parentheses is the nesting depth, and there is one value for
each pending operator, plus one after an operand. The next token is never malformed, a closing
parenthesis finds its counterpart, and a single value remains at the end. -/
theorem stacks_orderly (f : Formula) (lookup : String → Option Float) :
    (∀ ts rest m, f.tokens = ts ++ rest → Machine.start.feedAll lookup ts = .ok m →
      Layered m.pending ∧
      m.pending.count .left + ts.countP (· = .right) = ts.countP (· = .left) ∧
      m.values.length = m.pending.countP Pending.isOperator + (ts.getLast?.any Token.endsOperand).toNat ∧
      (∀ t ∈ rest.head?, (∃ m', m.feed lookup t = .ok m') ∨ m.feed lookup t = .error .divisionByZero ∨
        ∃ name, t = .var name ∧ lookup name = none ∧ m.feed lookup t = .error (.undefinedVariable name)) ∧
      (.right ∈ rest.head? → ∃ x values pending, m.settleSum = .ok ⟨x :: values, .left :: pending⟩) ∧
      (rest = [] → ∃ x, m.settleSum = .ok ⟨[x], []⟩ ∧ f.evaluate lookup = .ok x)) ∧
    ∀ reason, f.evaluate lookup ≠ .error (.malformed reason) := by
  constructor
  · intro ts rest m cut fed
    have complete : Token.Completes 0 false (ts ++ rest) := cut ▸ Token.completes_of_checkShape f.shape
    obtain ⟨orderly, completes, depth⟩ := Orderly.start.feedAll complete fed
    have last : (ts.getLast?.map Token.endsOperand).getD false = ts.getLast?.any Token.endsOperand := by
      cases ts.getLast? <;> rfl
    rw [last] at orderly completes
    rw [show Machine.start.pending.count .left = 0 from rfl, Nat.zero_add] at depth
    refine ⟨orderly.layered, depth, orderly.values, fun t ht => ?_, fun ht => ?_, ?_⟩
    · obtain ⟨rest, rfl⟩ := List.head?_eq_some_iff.mp ht
      obtain ⟨follows, inner, within, -⟩ := completes
      rcases orderly.feed follows within with ⟨m', ok, -⟩ | failed
      · exact .inl ⟨m', ok⟩
      · exact .inr failed
    · obtain ⟨rest, rfl⟩ := List.head?_eq_some_iff.mp ht
      obtain ⟨follows, inner, within, -⟩ := completes
      rw [← follows] at orderly
      have opened := Token.depthAfter_right within
      obtain ⟨x, values, pending, settled, -⟩ := orderly.settleSum_enclosed (by omega)
      exact ⟨x, values, pending, settled⟩
    · rintro rfl
      obtain ⟨closed, operand⟩ := completes
      rw [operand] at orderly
      obtain ⟨x, settled, value⟩ := orderly.result closed
      refine ⟨x, settled, ?_⟩
      rw [evaluate_eq_run, run_eq_feedAll_bind, cut, List.append_nil, fed]
      exact value
  · obtain ⟨d, -, value⟩ := f.exists_evaluate_eq_value
    intro reason
    rw [value]
    exact d.value_ne_malformed lookup reason

/-- Inside the parentheses, three operators on two levels and four values are pending. -/
theorem stacks_orderly_nested :
    let ts : List Token := [.number 8, .operator .subtract, .number 2, .operator .multiply, .left, .number 3,
      .operator .add, .var "x"]
    let f : Formula := ⟨ts ++ [.right], rfl⟩
    let m : Machine := ⟨[5, 3, 2, 8], [.operator .add, .left, .operator .multiply, .operator .subtract]⟩
    f.tokens = ts ++ [.right] ∧ Machine.start.feedAll (fun _ => some 5) ts = .ok m ∧ Layered m.pending ∧
      m.values.length = m.pending.countP Pending.isOperator + (ts.getLast?.any Token.endsOperand).toNat ∧
      .right ∈ [Token.right].head? ∧
      ∃ x values pending, m.settleSum = .ok ⟨x :: values, .left :: pending⟩ := by
  intro ts f m
  have fed : Machine.start.feedAll (fun _ => some 5) ts = .ok m := rfl
  obtain ⟨layered, -, values, -, enclosed, -⟩ := (stacks_orderly f fun _ => some 5).1 ts [.right] m rfl fed
  exact ⟨rfl, fed, layered, values, rfl, enclosed rfl⟩

end Formula
end Worksheet
