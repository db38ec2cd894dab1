import Worksheet.Proofs.Formula.Value
import Mathlib.Logic.Function.Basic

/-! The lookups of an evaluation. They are the variables of the tokens that are processed, with
repetitions, up to and including the token at which the evaluation stops. -/
namespace Worksheet

theorem Token.mem_name?_iff {t : Token} {name : String} : name ∈ t.name?.toList ↔ t = .var name := by
  cases t <;> simp [name?, eq_comm]

theorem Token.filterMap_name?_cons (t : Token) (ts : List Token) :
    (t :: ts).filterMap name? = t.name?.toList ++ ts.filterMap name? := by
  cases t <;> rfl

theorem Operator.of_divide_eq_ok {left right x : Float} (h : divide.apply left right = .ok x) :
    (right == 0) = false := by
  rw [apply] at h
  split at h
  · cases h
  · next nonzero => exact Bool.eq_false_iff.mpr nonzero

namespace Machine
variable {lookup : String → Option Float} {m state : Machine} {ts us before after : List Token}
  {t : Token} {e : FormulaFault}

theorem takeOperand_eq_error {x : Float} (h : m.takeOperand x = .error e) :
    e = .divisionByZero ∨ e = malformed := by
  rw [takeOperand] at h
  split at h
  · split at h
    · split at h
      · rcases Outcome.bind_eq_error.mp h with applied | ⟨_, _, ⟨⟩⟩
        exact .inl (Operator.of_apply_eq_error applied).2.2
      · cases h
        exact .inr rfl
    · cases h
  · cases h

theorem settleSum_eq_error (h : m.settleSum = .error e) : e = malformed := by
  rw [settleSum] at h
  split at h
  · split at h
    · cases h
    · next loose =>
      split at h
      · rcases Outcome.bind_eq_error.mp h with applied | ⟨_, _, ⟨⟩⟩
        obtain ⟨rfl, -, -⟩ := Operator.of_apply_eq_error applied
        exact absurd rfl loose
      · cases h
        rfl
  · cases h

theorem result_eq_error (h : m.result = .error e) : e = malformed := by
  rcases Outcome.bind_eq_error.mp h with settled | ⟨next, _, rest⟩
  · exact settleSum_eq_error settled
  · split at rest <;> cases rest
    rfl

/-- The faults of one step are a missing number, a division by zero, and a malformed stack. -/
theorem feed_eq_error (h : m.feed lookup t = .error e) :
    (∃ name, t = .var name ∧ lookup name = none ∧ e = .undefinedVariable name) ∨
      e = .divisionByZero ∨ e = malformed := by
  cases t with
  | number x => exact .inr (takeOperand_eq_error h)
  | var name =>
    rw [feed_var] at h
    split at h
    · exact .inr (takeOperand_eq_error h)
    · next missing =>
      cases h
      exact .inl ⟨name, rfl, missing, rfl⟩
  | operator op =>
    rw [feed_operator, takeOperator] at h
    split at h
    · cases h
    · rcases Outcome.bind_eq_error.mp h with settled | ⟨_, _, ⟨⟩⟩
      exact .inr (.inr (settleSum_eq_error settled))
  | left => cases h
  | right =>
    rcases Outcome.bind_eq_error.mp h with settled | ⟨next, _, rest⟩
    · exact .inr (.inr (settleSum_eq_error settled))
    · split at rest
      · exact .inr (takeOperand_eq_error rest)
      · cases rest
        exact .inr (.inr rfl)

/-- The tokens before `t` are processed without a fault, and `t` has the fault `e`. -/
def StopsAt (lookup : String → Option Float) (m : Machine) (before : List Token) (t : Token)
    (e : FormulaFault) : Prop :=
  ∃ state, m.feedAll lookup before = .ok state ∧ state.feed lookup t = .error e

theorem exists_stopsAt (h : m.feedAll lookup ts = .error e) :
    ∃ before t after, ts = before ++ t :: after ∧ m.StopsAt lookup before t e := by
  induction ts generalizing m with
  | nil => cases h
  | cons t ts ih =>
    rw [feedAll_cons] at h
    rcases Outcome.bind_eq_error.mp h with stops | ⟨next, fed, h⟩
    · exact ⟨[], t, ts, rfl, m, rfl, stops⟩
    · obtain ⟨before, last, after, rfl, state, through, stops⟩ := ih h
      refine ⟨t :: before, last, after, rfl, state, ?_, stops⟩
      rw [feedAll_cons, fed]
      exact through

theorem asked_append (h : m.feedAll lookup before = .ok state) (after : List Token) :
    m.asked lookup (before ++ after) = before.filterMap Token.name? ++ state.asked lookup after := by
  induction before generalizing m with
  | nil =>
    cases h
    rfl
  | cons t before ih =>
    rw [feedAll_cons] at h
    obtain ⟨next, fed, h⟩ := Outcome.bind_eq_ok.mp h
    rw [List.cons_append, asked_cons, fed, Token.filterMap_name?_cons, List.append_assoc]
    exact congrArg _ (ih h)

theorem asked_of_feedAll_eq_ok (h : m.feedAll lookup ts = .ok state) :
    m.asked lookup ts = ts.filterMap Token.name? := by
  have whole := asked_append h []
  rwa [asked_nil, List.append_nil, List.append_nil] at whole

theorem asked_of_stopsAt (h : m.StopsAt lookup before t e) (after : List Token) :
    m.asked lookup (before ++ t :: after) = (before ++ [t]).filterMap Token.name? := by
  obtain ⟨state, through, stops⟩ := h
  rw [asked_append through, asked_cons, stops, List.filterMap_append, Token.filterMap_name?_cons]
  rfl

theorem asked_isPrefix (m : Machine) (ts : List Token) :
    m.asked lookup ts <+: ts.filterMap Token.name? := by
  induction ts generalizing m with
  | nil => exact List.prefix_rfl
  | cons t ts ih =>
    rw [asked_cons, Token.filterMap_name?_cons]
    refine (List.prefix_append_right_inj _).mpr ?_
    cases m.feed lookup t with
    | ok next => exact ih next
    | error _ => exact List.nil_prefix

theorem exists_lookup_of_feed {name : String} (mem : name ∈ t.name?.toList)
    (fed : m.feed lookup t ≠ .error (.undefinedVariable name)) : ∃ x, lookup name = some x := by
  cases Token.mem_name?_iff.mp mem
  rw [feed_var] at fed
  split at fed
  · next x found => exact ⟨x, found⟩
  · exact absurd rfl fed

theorem exists_lookup_eq_some (h : m.feedAll lookup ts = .ok state) {name : String}
    (mem : name ∈ ts.filterMap Token.name?) : ∃ x, lookup name = some x := by
  induction ts generalizing m with
  | nil => cases mem
  | cons t ts ih =>
    rw [feedAll_cons] at h
    obtain ⟨next, fed, h⟩ := Outcome.bind_eq_ok.mp h
    rw [Token.filterMap_name?_cons, List.mem_append] at mem
    rcases mem with here | later
    · exact exists_lookup_of_feed here (fed.trans_ne nofun)
    · exact ih h later

theorem StopsAt.exists_lookup_eq_some (h : m.StopsAt lookup before t .divisionByZero) {name : String}
    (mem : name ∈ (before ++ [t]).filterMap Token.name?) : ∃ x, lookup name = some x := by
  obtain ⟨state, through, fault⟩ := h
  rw [List.filterMap_append, List.mem_append, Token.filterMap_name?_cons, List.filterMap_nil,
    List.append_nil] at mem
  rcases mem with earlier | here
  · exact Machine.exists_lookup_eq_some through earlier
  · exact exists_lookup_of_feed here (fault.trans_ne nofun)

/-- Both projections of the run depend only on the names that it queries. -/
theorem run_congr_of_asked {lookup' : String → Option Float}
    (agree : ∀ name ∈ m.asked lookup ts, lookup name = lookup' name) :
    m.run lookup ts = m.run lookup' ts ∧ m.asked lookup ts = m.asked lookup' ts := by
  induction ts generalizing m with
  | nil => exact ⟨rfl, rfl⟩
  | cons t ts ih =>
    rw [asked_cons] at agree
    have same : m.feed lookup t = m.feed lookup' t := by
      refine feed_congr ?_ m
      rintro name rfl
      exact agree name (List.mem_append_left _ (List.mem_singleton_self name))
    rw [run_cons, run_cons, asked_cons, asked_cons, ← same]
    cases fed : m.feed lookup t with
    | error fault => exact ⟨rfl, rfl⟩
    | ok next =>
      rw [fed] at agree
      obtain ⟨value, names⟩ := ih fun name mem => agree name (List.mem_append_right _ mem)
      exact ⟨value, congrArg _ names⟩

/-- Exact characterisation of the queried names: withholding the number of `name` alone turns the outcome
into its undefined-variable fault. -/
theorem mem_asked_iff {name : String} : name ∈ m.asked lookup ts ↔
    m.run (Function.update lookup name none) ts = .error (.undefinedVariable name) := by
  induction ts generalizing m with
  | nil =>
    refine iff_of_false List.not_mem_nil fun h => ?_
    cases result_eq_error h
  | cons t ts ih =>
    rw [asked_cons, run_cons, List.mem_append]
    by_cases ht : t = .var name
    · subst ht
      have missing : m.feed (Function.update lookup name none) (.var name) =
          .error (.undefinedVariable name) := by
        rw [feed_var, Function.update_self]
      rw [missing]
      exact ⟨fun _ => rfl, fun _ => .inl (List.mem_singleton_self name)⟩
    · have agree : ∀ n, t = .var n → Function.update lookup name none n = lookup n := by
        rintro n rfl
        exact Function.update_of_ne (fun h => ht (congrArg Token.var h)) none lookup
      rw [feed_congr agree, or_iff_right (mt Token.mem_name?_iff.mp ht)]
      cases fed : m.feed lookup t with
      | ok next => exact ih
      | error fault =>
        refine iff_of_false List.not_mem_nil fun h => ?_
        obtain rfl : fault = .undefinedVariable name := Except.error.inj h
        rcases feed_eq_error fed with ⟨_, same, _, ⟨⟩⟩ | fault | fault
        · exact absurd same ht
        · cases fault
        · cases fault

end Machine

/-- The tokens end with a division sign and this factor. -/
def Derivation.IsLastDivisor (q : Derivation .factor) (ts : List Token) : Prop :=
  ∃ front, ts = front ++ .operator .divide :: q.tokens

/-- `read` is the shortest prefix that ends with a divisor of value zero; all earlier divisors have
nonzero values. -/
structure EndsInFirstZero (lookup : String → Option Float) (ts read : List Token) : Prop where
  isPrefix : read <+: ts
  zero : ∃ q : Derivation .factor, q.IsLastDivisor read ∧ ∃ x, q.value lookup = .ok x ∧ (x == 0) = true
  nonzero : ∀ before, before <+: read → before ≠ read → ∀ q : Derivation .factor, q.IsLastDivisor before →
    ∃ x, q.value lookup = .ok x ∧ (x == 0) = false

namespace Machine
variable {lookup : String → Option Float} {m state : Machine} {ts us before after front : List Token}
  {t : Token} {x : Float} {q : Derivation .factor}

theorem feedAll_factor (q : Derivation .factor) (lookup : String → Option Float) (m : Machine) :
    m.feedAll lookup q.tokens = q.value lookup >>= m.takeOperand :=
  (bind_settle_factor _).symm.trans (feedAll_tokens lookup q trivial)

/-- All tokens of a factor with a value, except the last one, are processed without a fault. -/
theorem exists_last_of_value (h : q.value lookup = .ok x) (m : Machine) :
    ∃ inner t state, q.tokens = inner ++ [t] ∧ m.feedAll lookup inner = .ok state := by
  cases q with
  | number y | var name => exact ⟨[], _, m, rfl, rfl⟩
  | group s =>
    have whole := feedAll_tokens (m := ⟨m.values, .left :: m.pending⟩) lookup s isClear_left
    rw [show s.value lookup = .ok x from h] at whole
    obtain ⟨state, through, _⟩ := Outcome.bind_eq_ok.mp whole
    exact ⟨.left :: s.tokens, .right, state, rfl, through⟩

theorem nonzero_of_feedAll (h : m.feedAll lookup (front ++ .operator .divide :: q.tokens) = .ok state) :
    ∃ x, q.value lookup = .ok x ∧ (x == 0) = false := by
  rw [feedAll_append] at h
  obtain ⟨⟨values, pending⟩, _, h⟩ := Outcome.bind_eq_ok.mp h
  rw [feedAll_cons, feed_operator, takeOperator_of_tight rfl] at h
  change feedAll lookup ⟨values, .operator .divide :: pending⟩ q.tokens = _ at h
  rw [feedAll_factor] at h
  obtain ⟨x, value, taken⟩ := Outcome.bind_eq_ok.mp h
  refine ⟨x, value, ?_⟩
  cases values with
  | nil => cases taken
  | cons left values =>
    rw [takeOperand_of_tight rfl] at taken
    obtain ⟨_, applied, _⟩ := Outcome.bind_eq_ok.mp taken
    exact Operator.of_divide_eq_ok applied

/-- Some divisor among the tokens has value zero, and its division sign is processed without a fault. -/
def DividesByZero (lookup : String → Option Float) (m : Machine) (ts : List Token) : Prop :=
  ∃ (front : List Token) (q : Derivation .factor) (after : List Token),
    ts = front ++ .operator .divide :: (q.tokens ++ after) ∧ (∃ x, q.value lookup = .ok x ∧ (x == 0) = true) ∧
      ∃ left values pending,
        m.feedAll lookup (front ++ [.operator .divide]) = .ok ⟨left :: values, .operator .divide :: pending⟩

theorem DividesByZero.append (h : m.DividesByZero lookup ts) (us : List Token) :
    m.DividesByZero lookup (ts ++ us) := by
  obtain ⟨front, q, after, rfl, zero, waits⟩ := h
  exact ⟨front, q, after ++ us, by simp, zero, waits⟩

theorem DividesByZero.prepend (through : m.feedAll lookup us = .ok state) (h : state.DividesByZero lookup ts) :
    m.DividesByZero lookup (us ++ ts) := by
  obtain ⟨front, q, after, rfl, zero, left, values, pending, waits⟩ := h
  refine ⟨us ++ front, q, after, by simp, zero, left, values, pending, ?_⟩
  rw [List.append_assoc, feedAll_append, through]
  exact waits

/-- If the value of a derivation is a division by zero, the machine processes the tokens up to the
division sign. Either operand may contain the fault, or the division itself has it. -/
theorem dividesByZero_tokens {c : Category} (d : Derivation c) (fits : Fits m.pending c)
    (h : d.value lookup = .error .divisionByZero) : m.DividesByZero lookup d.tokens := by
  induction d generalizing m with
  | number x => cases h
  | var name =>
    rw [Derivation.value] at h
    split at h <;> cases h
  | group s ih =>
    have opens : m.feedAll lookup [.left] = .ok ⟨m.values, .left :: m.pending⟩ := rfl
    have inner : DividesByZero lookup ⟨m.values, .left :: m.pending⟩ s.tokens := ih isClear_left h
    exact DividesByZero.prepend opens (inner.append [.right])
  | factor f ih => exact ih trivial h
  | product p ih => exact ih fits.isLoose h
  | scaled p op tight f ihp ihf =>
    rcases Outcome.bind_eq_error.mp h with hp | ⟨x, hx, h⟩
    · exact (ihp fits hp).append _
    · have waits := feedAll_append_tight tight fits (feedAll_tokens lookup p fits)
      rw [hx] at waits
      rcases Outcome.bind_eq_error.mp h with hf | ⟨y, hy, h⟩
      · rw [Derivation.tokens, List.append_cons]
        exact (ihf trivial hf).prepend waits
      · obtain ⟨rfl, zero, -⟩ := Operator.of_apply_eq_error h
        refine ⟨p.tokens, f, [], ?_, ⟨y, hy, zero⟩, x, m.values, m.pending, waits⟩
        rw [List.append_nil, Derivation.tokens]
  | shifted s op loose p ihs ihp =>
    rcases Outcome.bind_eq_error.mp h with hs | ⟨x, hx, h⟩
    · exact (ihs fits hs).append _
    · have waits := feedAll_append_loose loose fits (feedAll_tokens lookup s fits)
      rw [hx] at waits
      rcases Outcome.bind_eq_error.mp h with hp | ⟨y, _, h⟩
      · rw [Derivation.tokens, List.append_cons]
        exact DividesByZero.prepend waits (ihp (isLoose_operator loose) hp)
      · obtain ⟨rfl, -, -⟩ := Operator.of_apply_eq_error h
        cases loose

theorem DividesByZero.exists_stopsAt (h : m.DividesByZero lookup ts) :
    ∃ before t after, ts = before ++ t :: after ∧ m.StopsAt lookup before t .divisionByZero ∧
      ∃ q : Derivation .factor, q.IsLastDivisor (before ++ [t]) ∧
        ∃ x, q.value lookup = .ok x ∧ (x == 0) = true := by
  obtain ⟨front, q, after, rfl, ⟨x, value, zero⟩, left, values, pending, waits⟩ := h
  obtain ⟨inner, t, state, last, through⟩ :=
    exists_last_of_value value ⟨left :: values, .operator .divide :: pending⟩
  refine ⟨front ++ .operator .divide :: inner, t, after, by simp [last], ⟨state, ?_, ?_⟩, q,
    ⟨front, by simp [last]⟩, x, value, zero⟩
  · rw [List.append_cons, feedAll_append, waits]
    exact through
  · have whole := feedAll_factor q lookup ⟨left :: values, .operator .divide :: pending⟩
    rw [last, feedAll_append, through, value] at whole
    calc state.feed lookup t
      _ = state.feedAll lookup [t] := (feedAll_singleton t).symm
      _ = takeOperand ⟨left :: values, .operator .divide :: pending⟩ x := whole
      _ = .error .divisionByZero := by
        rw [takeOperand_of_tight rfl, Operator.apply, if_pos zero]
        rfl

theorem StopsAt.endsInFirstZero {e : FormulaFault} (h : m.StopsAt lookup before t e)
    (zero : ∃ q : Derivation .factor, q.IsLastDivisor (before ++ [t]) ∧
      ∃ x, q.value lookup = .ok x ∧ (x == 0) = true) (after : List Token) :
    EndsInFirstZero lookup (before ++ t :: after) (before ++ [t]) where
  isPrefix := ⟨after, by simp⟩
  zero := zero
  nonzero := by
    obtain ⟨state, through, _⟩ := h
    rintro shorter within ne q ⟨front, rfl⟩
    obtain ⟨rest, rfl⟩ := (List.prefix_concat_iff.mp within).resolve_left ne
    rw [feedAll_append] at through
    obtain ⟨_, through, _⟩ := Outcome.bind_eq_ok.mp through
    exact nonzero_of_feedAll through

end Machine

theorem EndsInFirstZero.unique {lookup : String → Option Float} {ts read other : List Token}
    (h : EndsInFirstZero lookup ts read) (h' : EndsInFirstZero lookup ts other) : read = other := by
  have shortest {r r' : List Token} (h : EndsInFirstZero lookup ts r) (h' : EndsInFirstZero lookup ts r')
      (within : r <+: r') : r = r' := by
    by_contra ne
    obtain ⟨q, last, x, value, zero⟩ := h.zero
    obtain ⟨y, value', nonzero⟩ := h'.nonzero r within ne q last
    cases value.symm.trans value'
    cases zero.symm.trans nonzero
  rcases List.prefix_or_prefix_of_prefix h.isPrefix h'.isPrefix with within | within
  · exact shortest h h' within
  · exact (shortest h' h within).symm

namespace Formula
variable {f : Formula} {lookup : String → Option Float}

theorem mem_lookups_iff {name : String} : name ∈ f.lookups lookup ↔
    f.evaluate (Function.update lookup name none) = .error (.undefinedVariable name) :=
  Machine.mem_asked_iff

theorem evaluate_congr_of_lookups {lookup' : String → Option Float}
    (agree : ∀ name ∈ f.lookups lookup, lookup name = lookup' name) :
    f.evaluate lookup = f.evaluate lookup' ∧ f.lookups lookup = f.lookups lookup' :=
  Machine.run_congr_of_asked agree

theorem lookups_isPrefix (f : Formula) (lookup : String → Option Float) : f.lookups lookup <+: f.occurrences :=
  Machine.asked_isPrefix _ _

theorem lookups_of_evaluate_eq_ok {x : Float} (h : f.evaluate lookup = .ok x) :
    f.lookups lookup = f.occurrences ∧ ∀ name ∈ f.lookups lookup, ∃ y, lookup name = some y := by
  rw [evaluate_eq_run, Machine.run_eq_feedAll_bind] at h
  obtain ⟨_, through, _⟩ := Outcome.bind_eq_ok.mp h
  have all : f.lookups lookup = f.occurrences := Machine.asked_of_feedAll_eq_ok through
  rw [all]
  exact ⟨rfl, fun name mem => Machine.exists_lookup_eq_some through mem⟩

theorem exists_lookup_eq_some {x : Float} (h : f.evaluate lookup = .ok x) {name : String}
    (mem : name ∈ f.variableNames) : ∃ y, lookup name = some y := by
  obtain ⟨all, answered⟩ := lookups_of_evaluate_eq_ok h
  exact answered name (all ▸ NameSet.mem_ofList.mp mem)

theorem lookups_of_undefinedVariable {name : String}
    (h : f.evaluate lookup = .error (.undefinedVariable name)) :
    ∃ answered, f.lookups lookup = answered ++ [name] ∧ lookup name = none ∧
      ∀ other ∈ answered, ∃ x, lookup other = some x := by
  rw [evaluate_eq_run, Machine.run_eq_feedAll_bind] at h
  rcases Outcome.bind_eq_error.mp h with fed | ⟨_, _, fault⟩
  · obtain ⟨before, t, after, whole, stops⟩ := Machine.exists_stopsAt fed
    have names := Machine.asked_of_stopsAt stops after
    obtain ⟨state, through, fault⟩ := stops
    rcases Machine.feed_eq_error fault with ⟨_, rfl, missing, ⟨⟩⟩ | other | other
    · refine ⟨before.filterMap Token.name?, ?_, missing, fun _ => Machine.exists_lookup_eq_some through⟩
      rw [lookups_eq_asked, whole, names, List.filterMap_append]
      rfl
    · cases other
    · cases other
  · cases Machine.result_eq_error fault

theorem lookups_of_divisionByZero (h : f.evaluate lookup = .error .divisionByZero) :
    (∀ name ∈ f.lookups lookup, ∃ x, lookup name = some x) ∧
      ∃ read, EndsInFirstZero lookup f.tokens read ∧ f.lookups lookup = read.filterMap Token.name? := by
  obtain ⟨d, hd, value⟩ := f.exists_evaluate_eq_value
  rw [value] at h
  have divides : Machine.start.DividesByZero lookup d.tokens :=
    Machine.dividesByZero_tokens d Machine.isClear_nil h
  obtain ⟨before, t, after, whole, stops, zero⟩ := divides.exists_stopsAt
  have names : f.lookups lookup = (before ++ [t]).filterMap Token.name? := by
    rw [lookups_eq_asked, ← hd, whole, Machine.asked_of_stopsAt stops]
  have first := stops.endsInFirstZero zero after
  rw [← whole, hd] at first
  refine ⟨fun name mem => ?_, _, first, names⟩
  rw [names] at mem
  exact stops.exists_lookup_eq_some mem

/-- The lookups are a prefix of the occurring variables. A value requires all of them to have numbers. An
undefined variable is the last lookup, and all earlier ones have numbers. At a division by zero the
lookups end with the first divisor of value zero. The evaluation depends only on the numbers of its
variables. -/
theorem evaluate_lookups (f : Formula) (lookup : String → Option Float) :
    f.lookups lookup <+: f.occurrences ∧
    (match f.evaluate lookup with
      | .ok _ => f.lookups lookup = f.occurrences ∧ ∀ name ∈ f.lookups lookup, ∃ x, lookup name = some x
      | .error (.undefinedVariable name) => ∃ answered, f.lookups lookup = answered ++ [name] ∧
          lookup name = none ∧ ∀ other ∈ answered, ∃ x, lookup other = some x
      | .error .divisionByZero => (∀ name ∈ f.lookups lookup, ∃ x, lookup name = some x) ∧
          ∃ read, EndsInFirstZero lookup f.tokens read ∧ f.lookups lookup = read.filterMap Token.name?
      | .error (.malformed _) => False) ∧
    (∀ name ∈ f.lookups lookup, name ∈ f.variableNames) ∧
    ∀ lookup', (∀ name ∈ f.variableNames, lookup name = lookup' name) →
      f.evaluate lookup = f.evaluate lookup' ∧ f.lookups lookup = f.lookups lookup' := by
  have asked : ∀ name ∈ f.lookups lookup, name ∈ f.variableNames :=
    fun name mem => NameSet.mem_ofList.mpr ((f.lookups_isPrefix lookup).subset mem)
  refine ⟨f.lookups_isPrefix lookup, ?_, asked, fun lookup' agree => ?_⟩
  · cases h : f.evaluate lookup with
    | ok x => exact lookups_of_evaluate_eq_ok h
    | error fault =>
      cases fault with
      | undefinedVariable name => exact lookups_of_undefinedVariable h
      | divisionByZero => exact lookups_of_divisionByZero h
      | malformed reason =>
        obtain ⟨d, _, value⟩ := f.exists_evaluate_eq_value
        exact d.value_ne_malformed lookup reason ((value lookup).symm.trans h)
  · exact evaluate_congr_of_lookups fun name mem => agree name (asked name mem)

/-- The division by a group that evaluates to zero is reported at its closing parenthesis, before the
later variable without a number. -/
theorem evaluate_lookups_quotient :
    let f : Formula := ⟨[.var "a", .operator .divide, .left, .var "b", .operator .subtract, .var "b", .right,
      .operator .add, .var "c"], rfl⟩
    let lookup (name : String) : Option Float := if name = "c" then none else some 2
    f.evaluate lookup = .error .divisionByZero ∧ f.lookups lookup = ["a", "b", "b"] ∧
      (∃ read, EndsInFirstZero lookup f.tokens read ∧ ["a", "b", "b"] = read.filterMap Token.name?) ∧
        f.lookups lookup = f.lookups (Function.update lookup "d" (some 1)) := by
  intro f lookup
  have fails : f.evaluate lookup = .error .divisionByZero := by decide +kernel
  have names : f.lookups lookup = ["a", "b", "b"] := by decide +kernel
  obtain ⟨_, trace, _, agree⟩ := evaluate_lookups f lookup
  rw [fails] at trace
  have other : ∀ name ∈ f.variableNames, lookup name = Function.update lookup "d" (some 1) name := by
    intro name mem
    refine (Function.update_of_ne ?_ _ _).symm
    rintro rfl
    simp [mem_variableNames, f] at mem
  exact ⟨fails, names, names ▸ trace.2, (agree _ other).2⟩

end Formula
end Worksheet
