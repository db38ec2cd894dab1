import Worksheet.Proofs.Formula.Value

/-! Normalization as a renaming of variables. The shape and the value of a formula are independent of the
names. -/
namespace Worksheet

namespace Token
variable (rename : String → String)

def renamed : Token → Token
  | var name => var (rename name)
  | t => t

end Token

def Malformed.renamed (rename : String → String) : Malformed → Malformed
  | variableName name => variableName (rename name)
  | operandExpected after found => operandExpected (after.renamed rename) (found.renamed rename)
  | operatorExpected after found => operatorExpected (after.renamed rename) (found.renamed rename)
  | firstToken found => firstToken (found.renamed rename)
  | lastToken found => lastToken (found.renamed rename)
  | reason => reason

def FormulaFault.renamed (rename : String → String) : FormulaFault → FormulaFault
  | malformed reason => malformed (reason.renamed rename)
  | undefinedVariable name => undefinedVariable (rename name)
  | divisionByZero => divisionByZero

namespace Token
variable (rename : String → String)

@[simp] theorem beginsOperand_renamed (t : Token) : (t.renamed rename).beginsOperand = t.beginsOperand := by
  cases t <;> rfl

@[simp] theorem endsOperand_renamed (t : Token) : (t.renamed rename).endsOperand = t.endsOperand := by
  cases t <;> rfl

@[simp] theorem comesAfterOperand_renamed (t : Token) :
    (t.renamed rename).comesAfterOperand = t.comesAfterOperand := by
  cases t <;> rfl

@[simp] theorem callsForOperand_renamed (t : Token) :
    (t.renamed rename).callsForOperand = t.callsForOperand := by
  cases t <;> rfl

theorem var_mem_map_renamed {ts : List Token} {name : String} :
    .var name ∈ ts.map (renamed rename) ↔ ∃ x, .var x ∈ ts ∧ rename x = name := by
  rw [List.mem_map]
  constructor
  · rintro ⟨t, ht, same⟩
    cases t with
    | var x => exact ⟨x, ht, var.inj same⟩
    | number _ | operator _ | left | right => cases same
  · rintro ⟨x, hx, rfl⟩
    exact ⟨_, hx, rfl⟩

theorem depthAfter_renamed (depth : Nat) (t : Token) :
    (t.renamed rename).depthAfter depth = (t.depthAfter depth).mapError (Malformed.renamed rename) := by
  cases t with
  | right => cases depth <;> rfl
  | number _ | var _ | operator _ | left => rfl

theorem checkPair_renamed (t next : Token) :
    (t.renamed rename).checkPair (next.renamed rename) =
      (t.checkPair next).mapError (Malformed.renamed rename) := by
  simp only [checkPair, callsForOperand_renamed, beginsOperand_renamed, endsOperand_renamed,
    comesAfterOperand_renamed]
  split
  · rfl
  · split <;> rfl

theorem checkRun_renamed (depth : Nat) (ts : List Token) :
    checkRun depth (ts.map (renamed rename)) = (checkRun depth ts).mapError (Malformed.renamed rename) := by
  fun_induction checkRun depth ts with
  | case1 depth => rfl
  | case2 depth t => exact depthAfter_renamed rename depth t
  | case3 depth t next rest ih =>
    rw [List.map_cons, List.map_cons, checkRun, depthAfter_renamed, Outcome.mapError_bind]
    refine bind_congr fun inner => ?_
    rw [checkPair_renamed, Outcome.mapError_bind]
    exact bind_congr fun _ => ih inner

/-- The shape check commutes with renaming; the names occur only in its messages. -/
theorem checkShape_renamed (ts : List Token) :
    checkShape (ts.map (renamed rename)) = (checkShape ts).mapError (Malformed.renamed rename) := by
  cases ts with
  | nil => rfl
  | cons first rest =>
    have run := checkRun_renamed rename 0 (first :: rest)
    rw [List.map_cons] at run ⊢
    rw [checkShape, checkShape, run, Outcome.mapError_bind]
    refine bind_congr fun depth => ?_
    simp only [← List.map_cons, List.getLast_map, beginsOperand_renamed, endsOperand_renamed]
    split
    · rfl
    · split
      · rfl
      · split <;> rfl

/-- The normalized `name` is not accepted, and the normalized names of all variables to its left are. -/
def IsFirstRejected (normalize : String → String) (accepts : String → Bool) (ts : List Token) (name : String) :
    Prop :=
  ∃ before after, ts = before ++ .var name :: after ∧ (∀ x, .var x ∈ before → accepts (normalize x) = true) ∧
    accepts (normalize name) = false

theorem accepted_or_exists_isFirstRejected (normalize : String → String) (accepts : String → Bool)
    (ts : List Token) :
    (∀ x, .var x ∈ ts → accepts (normalize x) = true) ∨ ∃ x, IsFirstRejected normalize accepts ts x := by
  induction ts with
  | nil => exact .inl nofun
  | cons t ts ih =>
    by_cases rejected : ∃ x, t = .var x ∧ accepts (normalize x) = false
    · obtain ⟨x, rfl, rejected⟩ := rejected
      exact .inr ⟨x, [], ts, rfl, nofun, rejected⟩
    have first (x : String) (ht : .var x = t) : accepts (normalize x) = true :=
      Bool.of_not_eq_false fun h => rejected ⟨x, ht.symm, h⟩
    rcases ih with accepted | ⟨x, before, after, rfl, accepted, rejected⟩
    · refine .inl fun x hx => ?_
      exact (List.mem_cons.mp hx).elim (first x) (accepted x)
    · refine .inr ⟨x, t :: before, after, rfl, fun y hy => ?_, rejected⟩
      exact (List.mem_cons.mp hy).elim (first y) (accepted y)

end Token

namespace Derivation
variable {c : Category} (rename : String → String)

def renamed {c : Category} : Derivation c → Derivation c
  | number x => number x
  | var name => var (rename name)
  | group s => group s.renamed
  | factor f => factor f.renamed
  | scaled p op tight f => scaled p.renamed op tight f.renamed
  | product p => product p.renamed
  | shifted s op loose p => shifted s.renamed op loose p.renamed

theorem tokens_renamed (d : Derivation c) : (d.renamed rename).tokens = d.tokens.map (Token.renamed rename) := by
  induction d with
  | number _ | var _ => rfl
  | group s ih =>
    rw [renamed, tokens, tokens, ih, List.map_cons, List.map_append]
    rfl
  | factor f ih | product f ih => exact ih
  | scaled p op _ f ihp ihf | shifted p op _ f ihp ihf =>
    rw [renamed, tokens, tokens, ihp, ihf, List.map_append, List.map_cons]
    rfl

/-- Evaluation after a renaming is evaluation with a renamed lookup. -/
theorem value_renamed (lookup : String → Option Float) (d : Derivation c) :
    (d.renamed rename).value lookup =
      (d.value fun x => lookup (rename x)).mapError (FormulaFault.renamed rename) := by
  induction d with
  | number x => rfl
  | var name =>
    rw [renamed, value, value]
    cases lookup (rename name) <;> rfl
  | group s ih | factor s ih | product s ih => exact ih
  | scaled p op _ f ihp ihf | shifted p op _ f ihp ihf =>
    rw [renamed, value, value, ihp, ihf, Outcome.mapError_bind]
    refine bind_congr fun x => ?_
    rw [Outcome.mapError_bind]
    refine bind_congr fun y => ?_
    cases applied : op.apply x y with
    | ok z => rfl
    | error e =>
      obtain ⟨-, -, rfl⟩ := Operator.of_apply_eq_error applied
      rfl

end Derivation

namespace Formula
variable {normalize : String → String} {accepts : String → Bool} {cs : List Char} {ts : List Token}

theorem shape_renamed (f : Formula) (rename : String → String) :
    Token.checkShape (f.tokens.map (Token.renamed rename)) = .ok () := by
  rw [Token.checkShape_renamed, f.shape]
  rfl

def renamed (f : Formula) (rename : String → String) : Formula :=
  ⟨f.tokens.map (Token.renamed rename), f.shape_renamed rename⟩

theorem mem_variableNames_renamed {f : Formula} {rename : String → String} {name : String} :
    name ∈ (f.renamed rename).variableNames ↔ ∃ x ∈ f.variableNames, rename x = name := by
  rw [mem_variableNames, renamed, Token.var_mem_map_renamed]
  simp only [mem_variableNames]

theorem evaluate_renamed (f : Formula) (rename : String → String) (lookup : String → Option Float) :
    (f.renamed rename).evaluate lookup =
      (f.evaluate fun x => lookup (rename x)).mapError (FormulaFault.renamed rename) := by
  obtain ⟨d, hd, value⟩ := f.exists_evaluate_eq_value
  have tokens : (d.renamed rename).tokens = (f.renamed rename).tokens := by
    rw [d.tokens_renamed, hd, renamed]
  rw [evaluate_eq_value tokens, d.value_renamed, value]

theorem ofTokens_eq_error {reason : Malformed} :
    ofTokens ts = .error reason ↔ Token.checkShape ts = .error reason := by
  rw [ofTokens]
  split
  · next h => simp [h]
  · next h => simp [h]

theorem ofTokens_renamed (ts : List Token) (rename : String → String) :
    ofTokens (ts.map (Token.renamed rename)) =
      ((ofTokens ts).map (renamed · rename)).mapError (Malformed.renamed rename) := by
  cases h : ofTokens ts with
  | ok f =>
    obtain rfl := ofTokens_tokens h
    exact ofTokens_self (f.renamed rename)
  | error reason =>
    rw [ofTokens_eq_error] at h
    refine ofTokens_eq_error.mpr ?_
    rw [Token.checkShape_renamed, h]
    rfl

theorem ofText_eq_ofTokens (lexed : Token.lexAll cs = .ok ts) : ofText cs = ofTokens ts := by
  have kept (t : Token) (_ : t ∈ ts) : normalizeToken id (fun _ => true) t = .ok t := by
    cases t <;> rfl
  rw [ofText, ofTextWith, lexed]
  change ts.mapM (normalizeToken id fun _ => true) >>= ofTokens = _
  rw [Outcome.mapM_eq_self kept]
  rfl

theorem ofTextWith_of_accepted (lexed : Token.lexAll cs = .ok ts)
    (accepted : ∀ x, .var x ∈ ts → accepts (normalize x) = true) :
    ofTextWith normalize accepts cs =
      ((ofText cs).map (renamed · normalize)).mapError (Malformed.renamed normalize) := by
  have each (t : Token) (ht : t ∈ ts) : normalizeToken normalize accepts t = .ok (t.renamed normalize) := by
    cases t with
    | var x => exact if_pos (accepted x ht)
    | number _ | operator _ | left | right => rfl
  rw [ofText_eq_ofTokens lexed, ← ofTokens_renamed, ofTextWith, lexed]
  change ts.mapM (normalizeToken normalize accepts) >>= ofTokens = _
  rw [Outcome.mapM_eq_map each]
  rfl

/-- A rejected variable is reported before the shape is checked. -/
theorem ofTextWith_of_rejected {name : String} (lexed : Token.lexAll cs = .ok ts)
    (rejected : Token.IsFirstRejected normalize accepts ts name) :
    ofTextWith normalize accepts cs = .error (.variableName (normalize name)) := by
  obtain ⟨before, after, rfl, accepted, rejected⟩ := rejected
  have first (t : Token) (ht : t ∈ before) : ∃ u, normalizeToken normalize accepts t = .ok u := by
    cases t with
    | var x => exact ⟨_, if_pos (accepted x ht)⟩
    | number _ | operator _ | left | right => exact ⟨_, rfl⟩
  have refused : normalizeToken normalize accepts (.var name) = .error (.variableName (normalize name)) :=
    if_neg (Bool.eq_false_iff.mp rejected)
  rw [ofTextWith, lexed]
  change (before ++ .var name :: after).mapM (normalizeToken normalize accepts) >>= ofTokens = _
  rw [Outcome.mapM_eq_error first refused]
  rfl

theorem ofTextWith_of_lexAll_eq_error {reason : Malformed} (h : Token.lexAll cs = .error reason) :
    ofTextWith normalize accepts cs = .error reason := by
  rw [ofTextWith, h]
  rfl

theorem ofTextWith_eq_ok_iff {f : Formula} : ofTextWith normalize accepts cs = .ok f ↔ ∃ g, ofText cs = .ok g ∧
    (∀ x ∈ g.variableNames, accepts (normalize x) = true) ∧ f = g.renamed normalize := by
  constructor
  · intro read
    cases lexed : Token.lexAll cs with
    | error fault => cases (ofTextWith_of_lexAll_eq_error lexed).symm.trans read
    | ok ts =>
      rcases Token.accepted_or_exists_isFirstRejected normalize accepts ts with accepted | ⟨x, rejected⟩
      · rw [ofTextWith_of_accepted lexed accepted] at read
        cases plain : ofText cs with
        | error reason =>
          rw [plain] at read
          cases read
        | ok g =>
          rw [plain] at read
          obtain rfl := Except.ok.inj ((ofText_eq_ok.mp plain).symm.trans lexed)
          exact ⟨g, rfl, fun x hx => accepted x (mem_variableNames.mp hx), (Except.ok.inj read).symm⟩
      · cases (ofTextWith_of_rejected lexed rejected).symm.trans read
  · rintro ⟨g, plain, accepted, rfl⟩
    rw [ofTextWith_of_accepted (ofText_eq_ok.mp plain) fun x hx => accepted x (mem_variableNames.mpr hx), plain]
    rfl

theorem ofTextWith_eq_error_iff {reason : Malformed} : ofTextWith normalize accepts cs = .error reason ↔
    Token.lexAll cs = .error reason ∨ ∃ ts, Token.lexAll cs = .ok ts ∧
      ((∃ x, Token.IsFirstRejected normalize accepts ts x ∧ reason = .variableName (normalize x)) ∨
        (∀ x, .var x ∈ ts → accepts (normalize x) = true) ∧
          ∃ plain, ofText cs = .error plain ∧ reason = plain.renamed normalize) := by
  constructor
  · intro refused
    cases lexed : Token.lexAll cs with
    | error fault =>
      rw [ofTextWith_of_lexAll_eq_error lexed] at refused
      exact .inl (congrArg Except.error (Except.error.inj refused))
    | ok ts =>
      refine .inr ⟨ts, rfl, ?_⟩
      rcases Token.accepted_or_exists_isFirstRejected normalize accepts ts with accepted | ⟨x, rejected⟩
      · rw [ofTextWith_of_accepted lexed accepted] at refused
        cases plain : ofText cs with
        | ok g =>
          rw [plain] at refused
          cases refused
        | error fault =>
          rw [plain] at refused
          exact .inr ⟨accepted, fault, rfl, (Except.error.inj refused).symm⟩
      · rw [ofTextWith_of_rejected lexed rejected] at refused
        exact .inl ⟨x, rejected, (Except.error.inj refused).symm⟩
  · rintro (unlexed | ⟨ts, lexed, ⟨x, rejected, rfl⟩ | ⟨accepted, plain, refused, rfl⟩⟩)
    · exact ofTextWith_of_lexAll_eq_error unlexed
    · exact ofTextWith_of_rejected lexed rejected
    · rw [ofTextWith_of_accepted lexed accepted, refused]
      rfl

/-- A text parses with normalization exactly if it parses without it and all normalized names are
accepted. The result is then the renamed formula, with the value obtained by the renamed lookup.
Otherwise the fault is, in this order: the first lexical fault, the leftmost rejected name, the shape
fault with renamed messages. -/
theorem ofTextWith_renames (normalize : String → String) (accepts : String → Bool) (cs : List Char) :
    (∀ f, ofTextWith normalize accepts cs = .ok f ↔ ∃ g, ofText cs = .ok g ∧
      (∀ x ∈ g.variableNames, accepts (normalize x) = true) ∧ f = g.renamed normalize) ∧
    (∀ g : Formula, (g.renamed normalize).tokens = g.tokens.map (Token.renamed normalize) ∧
      (∀ name, name ∈ (g.renamed normalize).variableNames ↔ ∃ x ∈ g.variableNames, normalize x = name) ∧
      ∀ lookup, (g.renamed normalize).evaluate lookup =
        (g.evaluate fun x => lookup (normalize x)).mapError (FormulaFault.renamed normalize)) ∧
    ∀ reason, ofTextWith normalize accepts cs = .error reason ↔ Token.lexAll cs = .error reason ∨
      ∃ ts, Token.lexAll cs = .ok ts ∧
        ((∃ x, Token.IsFirstRejected normalize accepts ts x ∧ reason = .variableName (normalize x)) ∨
          (∀ x, .var x ∈ ts → accepts (normalize x) = true) ∧
            ∃ plain, ofText cs = .error plain ∧ reason = plain.renamed normalize) := by
  refine ⟨fun f => ofTextWith_eq_ok_iff, fun g => ?_, fun reason => ofTextWith_eq_error_iff⟩
  exact ⟨rfl, fun name => mem_variableNames_renamed, g.evaluate_renamed normalize⟩

/-- Merged names share one fault. A rejected name precedes a missing operator, and the latter is reported
with the new names. -/
theorem ofTextWith_renames_merged :
    let normalize (x : String) : String := String.ofList (x.toList.take 1)
    let accepts (x : String) : Bool := x != "q"
    let g : Formula := ⟨[.var "a1", .operator .divide, .left, .var "a2", .operator .subtract, .var "b", .right], rfl⟩
    ofText "a1/(a2 - b)".toList = .ok g ∧ (∀ x ∈ g.variableNames, accepts (normalize x) = true) ∧
      ofTextWith normalize accepts "a1/(a2 - b)".toList = .ok (g.renamed normalize) ∧
      (∀ lookup, (g.renamed normalize).evaluate lookup =
        (g.evaluate fun x => lookup (normalize x)).mapError (FormulaFault.renamed normalize)) ∧
      ofTextWith normalize accepts "(a1 b2 q3 r4".toList = .error (.variableName "q") ∧
      ofTextWith normalize accepts "(a1 b2".toList = .error (.operatorExpected (.var "a") (.var "b")) := by
  intro normalize accepts g
  have plain : ofText "a1/(a2 - b)".toList = .ok g := by decide +kernel
  have accepted : ∀ x ∈ g.variableNames, accepts (normalize x) = true := by
    intro x hx
    have names : x = "a1" ∨ x = "a2" ∨ x = "b" := by simpa [g] using mem_variableNames.mp hx
    rcases names with rfl | rfl | rfl <;> decide +kernel
  have read := ((ofTextWith_renames normalize accepts "a1/(a2 - b)".toList).1 (g.renamed normalize)).mpr
    ⟨g, plain, accepted, rfl⟩
  have value := ((ofTextWith_renames normalize accepts []).2.1 g).2.2
  refine ⟨plain, accepted, read, value, ?_, ?_⟩
  · have lexed : Token.lexAll "(a1 b2 q3 r4".toList =
        .ok [.left, .var "a1", .var "b2", .var "q3", .var "r4"] := by decide +kernel
    have first : Token.IsFirstRejected normalize accepts [.left, .var "a1", .var "b2", .var "q3", .var "r4"] "q3" := by
      refine ⟨[.left, .var "a1", .var "b2"], [.var "r4"], rfl, fun x hx => ?_, by decide +kernel⟩
      have names : x = "a1" ∨ x = "b2" := by simpa using hx
      rcases names with rfl | rfl <;> decide +kernel
    exact ((ofTextWith_renames normalize accepts _).2.2 _).mpr
      (.inr ⟨_, lexed, .inl ⟨"q3", first, by decide +kernel⟩⟩)
  · have lexed : Token.lexAll "(a1 b2".toList = .ok [.left, .var "a1", .var "b2"] := by decide +kernel
    have refused : ofText "(a1 b2".toList = .error (.operatorExpected (.var "a1") (.var "b2")) := by
      decide +kernel
    refine ((ofTextWith_renames normalize accepts _).2.2 _).mpr
      (.inr ⟨_, lexed, .inr ⟨fun x hx => ?_, _, refused, by decide +kernel⟩⟩)
    have names : x = "a1" ∨ x = "b2" := by simpa using hx
    rcases names with rfl | rfl <;> decide +kernel

end Formula
end Worksheet
