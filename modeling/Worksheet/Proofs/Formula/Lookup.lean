import Worksheet.Cell
import Worksheet.Proofs.NameSet
import Worksheet.Proofs.Outcome

/-! Equations of the evaluation and of its lookups. The value depends only on the variables of the
formula, and the variables of a parsed formula are accepted names. -/
namespace Worksheet

theorem Querying.outcome_bind {α β : Type} (first : Querying α) (next : α → Querying β) :
    (first >>= next).outcome = first.outcome >>= fun x => (next x).outcome := by
  obtain ⟨queries, outcome⟩ := first
  cases outcome <;> rfl

theorem Querying.queries_bind {α β : Type} (first : Querying α) (next : α → Querying β) :
    (first >>= next).queries = first.queries ++ match first.outcome with
      | .ok x => (next x).queries
      | .error _ => [] := by
  obtain ⟨queries, outcome⟩ := first
  cases outcome with
  | ok x => rfl
  | error e => exact (List.append_nil queries).symm

namespace Machine
variable {lookup lookup' : String → Option Float} {t : Token} {ts : List Token}

theorem feed_var (lookup : String → Option Float) (m : Machine) (name : String) :
    m.feed lookup (.var name) = match lookup name with
      | some x => m.takeOperand x
      | none => .error (.undefinedVariable name) := by
  rw [feed, step, Querying.outcome_bind, Querying.ask]
  cases lookup name <;> rfl

theorem feed_operator (lookup : String → Option Float) (m : Machine) (op : Operator) :
    m.feed lookup (.operator op) = m.takeOperator op := rfl

theorem queries_step (lookup : String → Option Float) (m : Machine) (t : Token) :
    (m.step lookup t).queries = t.name?.toList := by
  cases t with
  | var name =>
    rw [step, Querying.queries_bind, Querying.ask]
    cases lookup name <;> rfl
  | number _ | operator _ | left | right => rfl

theorem run_cons (lookup : String → Option Float) (m : Machine) (t : Token) (ts : List Token) :
    m.run lookup (t :: ts) = m.feed lookup t >>= fun next => next.run lookup ts :=
  Querying.outcome_bind _ _

theorem asked_nil (lookup : String → Option Float) (m : Machine) : m.asked lookup [] = [] := rfl

theorem asked_cons (lookup : String → Option Float) (m : Machine) (t : Token) (ts : List Token) :
    m.asked lookup (t :: ts) = t.name?.toList ++ match m.feed lookup t with
      | .ok next => next.asked lookup ts
      | .error _ => [] := by
  rw [asked, evaluation, Querying.queries_bind, queries_step, feed]
  cases (m.step lookup t).outcome <;> rfl

theorem feed_congr (agree : ∀ name, t = .var name → lookup name = lookup' name) (m : Machine) :
    m.feed lookup t = m.feed lookup' t := by
  cases t with
  | var name => rw [feed_var, feed_var, agree name rfl]
  | number _ | operator _ | left | right => rfl

theorem run_congr (agree : ∀ name, .var name ∈ ts → lookup name = lookup' name) (m : Machine) :
    m.run lookup ts = m.run lookup' ts := by
  induction ts generalizing m with
  | nil => rfl
  | cons t ts ih =>
    rw [run_cons, run_cons, feed_congr fun name ht => agree name (ht ▸ List.mem_cons_self)]
    exact bind_congr fun m => ih (fun name hn => agree name (List.mem_cons_of_mem t hn)) m

end Machine

namespace Formula

theorem mem_variableNames {f : Formula} {name : String} :
    name ∈ f.variableNames ↔ .var name ∈ f.tokens := by
  rw [variableNames, NameSet.mem_ofList, occurrences, List.mem_filterMap]
  constructor
  · rintro ⟨t, ht, he⟩
    cases t with
    | var x => exact Option.some.inj he ▸ ht
    | number _ | operator _ | left | right => cases he
  · exact fun h => ⟨_, h, rfl⟩

theorem evaluate_eq_run (f : Formula) (lookup : String → Option Float) :
    f.evaluate lookup = Machine.start.run lookup f.tokens := rfl

theorem lookups_eq_asked (f : Formula) (lookup : String → Option Float) :
    f.lookups lookup = Machine.start.asked lookup f.tokens := rfl

theorem evaluate_congr {f : Formula} {lookup lookup' : String → Option Float}
    (agree : ∀ name ∈ f.variableNames, lookup name = lookup' name) :
    f.evaluate lookup = f.evaluate lookup' :=
  Machine.run_congr (fun name h => agree name (mem_variableNames.mpr h)) _

theorem normalizeToken_cases {normalize : String → String} {accepts : String → Bool} {read t : Token}
    (h : normalizeToken normalize accepts read = .ok t) :
    (∃ name, accepts (normalize name) = true ∧ t = .var (normalize name)) ∨ t = read ∧ t.name? = none := by
  cases read with
  | var name =>
    rw [normalizeToken] at h
    split at h
    · next accepted =>
      cases h
      exact .inl ⟨name, accepted, rfl⟩
    · cases h
  | number _ | operator _ | left | right =>
    cases h
    exact .inr ⟨rfl, rfl⟩

theorem ofTokens_tokens {tokens : List Token} {f : Formula} (h : ofTokens tokens = .ok f) :
    f.tokens = tokens := by
  rw [ofTokens] at h
  split at h
  · cases h
    rfl
  · cases h

theorem ofTokens_self (f : Formula) : ofTokens f.tokens = .ok f := by
  rw [ofTokens]
  split
  · rfl
  · next reason h => cases f.shape.symm.trans h

theorem exists_of_mem_tokens {normalize : String → String} {accepts : String → Bool} {cs : List Char}
    {f : Formula} (h : ofTextWith normalize accepts cs = .ok f) {t : Token} (ht : t ∈ f.tokens) :
    ∃ ts, Token.lexAll cs = .ok ts ∧ ∃ read ∈ ts, normalizeToken normalize accepts read = .ok t := by
  rw [ofTextWith] at h
  obtain ⟨ts, lexed, h⟩ := Outcome.bind_eq_ok.mp h
  obtain ⟨normalized, hm, h⟩ := Outcome.bind_eq_ok.mp h
  rw [ofTokens_tokens h] at ht
  exact ⟨ts, lexed, Outcome.exists_of_mem_mapM hm ht⟩

theorem ofTextWith_accepts {normalize : String → String} {accepts : String → Bool} {cs : List Char}
    {f : Formula} (h : ofTextWith normalize accepts cs = .ok f) :
    ∀ name ∈ f.variableNames, accepts name = true := by
  intro name hn
  obtain ⟨_, _, _, _, kept⟩ := exists_of_mem_tokens h (mem_variableNames.mp hn)
  rcases normalizeToken_cases kept with ⟨_, accepted, same⟩ | ⟨_, none⟩
  · cases same
    exact accepted
  · cases none

end Formula

theorem Contents.evaluate_congr {c : Contents} {lookup lookup' : String → Option Float}
    (agree : ∀ name ∈ c.precedents, lookup name = lookup' name) :
    c.evaluate lookup = c.evaluate lookup' := by
  cases c with
  | formula f => rw [evaluate, evaluate, f.evaluate_congr agree]
  | number _ | text _ => rfl

end Worksheet
