import Worksheet.Proofs.Graph.Operations
import Worksheet.Proofs.Graph.Visiting

/-! The counters of a graph: its number of edges and, during the sort, the number of unsettled precedents
of each name. A counter is at least one whenever it is decremented. -/
namespace Worksheet.Graph

namespace Operation
variable {g : Graph}

/-- The pairs that an operation erases, in the order of a visit; some may not be edges. -/
def erased (v : g.Visit) : Operation → List (String × String)
  | add _ _ | clear => []
  | remove s t => [(s, t)]
  | setDependents s _ => (v.dependents s).map fun t => (s, t)
  | setPrecedents t _ => (v.precedents t).map fun s => (s, t)

/-- The pairs that an operation inserts after that. -/
def inserted : Operation → List (String × String)
  | remove _ _ | clear => []
  | add s t => [(s, t)]
  | setDependents s names => names.map fun t => (s, t)
  | setPrecedents t names => names.map fun s => (s, t)

end Operation

namespace Represents
variable {g : Graph} {edges : Edges} {op : Operation} {s t : String}

theorem eraseAll_insertAll (hg : g.Represents edges) (v : g.Visit) (kept : op ≠ .clear) :
    ((g.eraseAll (op.erased v)).insertAll op.inserted).Represents (op.onEdges edges) := by
  cases op with
  | add s t => exact hg.insert s t
  | remove s t => exact hg.erase s t
  | setDependents s names =>
    exact hg.replace (edges.mem_leaving fun t => v.mem_dependents.trans hg.hasEdge_iff) _
  | setPrecedents t names =>
    refine hg.replace (edges.mem_entering fun s => ?_) _
    rw [(v.precedents_perm t).mem_iff, Std.ExtTreeSet.mem_toList, hg.mem_precedents]
  | clear => exact absurd rfl kept

/-- An operation with all its identifiers is a sequence of erasures followed by insertions, in the order
of any visit. -/
theorem attempt_eq (hg : g.Represents edges) (v : g.Visit) (kept : op ≠ .clear) (named : "" ∉ op.identifiers) :
    op.attempt g = .ok ((g.eraseAll (op.erased v)).insertAll op.inserted) := by
  rw [op.attempt_eq_after, Update.after_of_run (op.run_update named g),
    (hg.effect op).unique (hg.eraseAll_insertAll v kept)]

/-- Erasing an edge decrements a positive edge count. -/
theorem edgeCount_erase (hg : g.Represents edges) (present : t ∈ g.dependents s) :
    1 ≤ g.edgeCount ∧ (g.erase s t).edgeCount + 1 = g.edgeCount := by
  have mem := (hg.mem_dependents s t).mp present
  rw [(hg.erase s t).count, hg.count, Finset.card_erase_add_one mem]
  exact ⟨Finset.card_pos.mpr ⟨_, mem⟩, rfl⟩

end Represents

namespace Countdown

/-- An event of the sort. -/
inductive Event
  /-- The edge from the settled name `s` to `t` decrements the count `n`. -/
  | lowered (s t : String) (n : Nat)
  /-- The name has no unsettled precedents. -/
  | ready (name : String)
  deriving DecidableEq

namespace Event

def edge? : Event → Option (String × String)
  | lowered s t _ => some (s, t)
  | ready _ => none

def name? : Event → Option String
  | lowered _ _ _ => none
  | ready name => some name

end Event

variable {c : Countdown} {s t x : String}

/-- The events of releasing `t` after `s` is settled. -/
def releasing (c : Countdown) (s t : String) : List Event :=
  match c.waiting[t]? with
  | none => []
  | some n => .lowered s t n :: if n - 1 = 0 then [.ready t] else []

/-- The events of releasing several names in order. -/
def releasingAll (c : Countdown) (s : String) : List String → List Event
  | [] => []
  | t :: ts => c.releasing s t ++ (c.release t).releasingAll s ts

theorem edge?_releasing (c : Countdown) (s t : String) :
    (c.releasing s t).filterMap Event.edge? = if c.waiting[t]?.isSome then [(s, t)] else [] := by
  rw [releasing]
  cases c.waiting[t]? with
  | none => rfl
  | some n =>
    dsimp only
    split <;> rfl

theorem name?_releasing (c : Countdown) (s t : String) :
    (c.releasing s t).filterMap Event.name? =
      if c.waiting[t]?.map (· - 1) = some 0 then [t] else [] := by
  rw [releasing]
  cases c.waiting[t]? with
  | none => rfl
  | some n =>
    simp only [Option.map_some, Option.some.injEq]
    split <;> rfl

theorem lowered_mem_releasing {u : String} {n : Nat} (h : .lowered u x n ∈ c.releasing s t) :
    u = s ∧ x = t ∧ c.waiting[t]? = some n := by
  rw [releasing] at h
  cases found : c.waiting[t]? with
  | none => simp [found] at h
  | some m =>
    rw [found] at h
    rcases List.mem_cons.mp h with same | rest
    · cases same
      exact ⟨rfl, rfl, rfl⟩
    · split at rest <;> simp at rest

/-- Names without repetitions are released independently. -/
theorem releasingAll_eq (c : Countdown) (s : String) {ts : List String} (nodup : ts.Nodup) :
    c.releasingAll s ts = ts.flatMap (c.releasing s) := by
  induction ts generalizing c with
  | nil => rfl
  | cons t ts ih =>
    obtain ⟨new, nodup⟩ := List.nodup_cons.mp nodup
    have same : ∀ x ∈ ts, (c.release t).releasing s x = c.releasing s x := by
      intro x hx
      have ne : x ≠ t := fun h => new (h ▸ hx)
      rw [releasing, releasing, release_waiting, if_neg ne]
    rw [releasingAll, ih _ nodup, List.flatMap_cons, List.flatMap_congr same]

private theorem flatMap_ite {α : Type} (p : String → Prop) [DecidablePred p] (f : String → α) (ts : List String) :
    ts.flatMap (fun t => if p t then [f t] else []) = (ts.filter p).map f := by
  induction ts with
  | nil => rfl
  | cons t ts ih =>
    rw [List.flatMap_cons, ih, List.filter_cons]
    by_cases h : p t <;> simp [h]

theorem edge?_releasingAll (c : Countdown) (s : String) {ts : List String} (nodup : ts.Nodup) :
    (c.releasingAll s ts).filterMap Event.edge? =
      (ts.filter fun t => c.waiting[t]?.isSome).map fun t => (s, t) := by
  rw [releasingAll_eq c s nodup, List.filterMap_flatMap]
  simp only [edge?_releasing, flatMap_ite, Bool.decide_eq_true]

theorem name?_releasingAll (c : Countdown) (s : String) {ts : List String} (nodup : ts.Nodup) :
    (c.releasingAll s ts).filterMap Event.name? =
      ts.filter fun t => c.waiting[t]?.map (· - 1) = some 0 := by
  rw [releasingAll_eq c s nodup, List.filterMap_flatMap]
  simp only [name?_releasing]
  exact (flatMap_ite _ id ts).trans (List.map_id _)

end Countdown

namespace Visit
open Countdown (Sound)
variable {g : Graph} {v : g.Visit} {names : NameSet} {c : Countdown} {log : List Countdown.Event}

/-- The events of settling the least ready name. -/
def settling (v : g.Visit) (c : Countdown) : List Countdown.Event :=
  match c.ready.toList with
  | [] => []
  | s :: _ => Countdown.releasingAll ⟨c.waiting, c.ready.erase s, s :: c.settled⟩ s (v.dependents s)

/-- The events of the start and of a number of steps. -/
def events (v : g.Visit) (names : NameSet) : Nat → List Countdown.Event
  | 0 => ((v.counted names).filter (· ∈ (v.start names).ready)).map .ready
  | n + 1 => v.events names n ++ v.settling (v.run n (v.start names))

/-- The log of a reached state: the decrements are exactly the edges leaving the settled names, in order,
and the names reported ready are exactly those that are ready or settled. -/
structure Recorded (v : g.Visit) (names : NameSet) (c : Countdown) (log : List Countdown.Event) : Prop where
  edges : log.filterMap Countdown.Event.edge? =
    c.settled.reverse.flatMap fun s => ((v.dependents s).filter (· ∈ names)).map fun t => (s, t)
  nodup : (log.filterMap Countdown.Event.name?).Nodup
  mem_names : ∀ x, x ∈ log.filterMap Countdown.Event.name? ↔ x ∈ c.ready ∨ x ∈ c.settled
  positive : ∀ s t n, .lowered s t n ∈ log → 1 ≤ n

theorem nodup_dependents (v : g.Visit) (s : String) : (v.dependents s).Nodup :=
  (v.dependents_perm s).nodup_iff.mpr (NameSet.nodup_toList _)

theorem run_succ (v : g.Visit) (n : Nat) (c : Countdown) : v.run (n + 1) c = v.step (v.run n c) := by
  induction n generalizing c with
  | zero => rfl
  | succ n ih => rw [run, ih, run]

theorem sound_run (v : g.Visit) (hm : g.Mirrored) (n : Nat) : Sound g names (v.run n (v.start names)) := by
  rw [run_eq, start_eq]
  exact (Countdown.start_sound g names).run hm n

theorem mem_ready_start (v : g.Visit) (names : NameSet) {x : String} (hx : x ∈ (v.start names).ready) :
    x ∈ names := by
  rw [start_eq] at hx
  exact (((Countdown.start_sound g names).mem_ready x).mp hx).1

namespace Recorded

theorem start (v : g.Visit) (names : NameSet) : v.Recorded names (v.start names) (v.events names 0) := by
  have nodup : (v.counted names).Nodup := (v.counted_perm names).nodup_iff.mpr (NameSet.nodup_toList names)
  have entered : (v.events names 0).filterMap Countdown.Event.name? =
      (v.counted names).filter (· ∈ (v.start names).ready) := by
    rw [events, List.filterMap_map]
    exact List.filterMap_some
  refine ⟨?_, ?_, fun x => ?_, fun s t n h => ?_⟩
  · rw [events, List.filterMap_map]
    exact List.filterMap_none _
  · rw [entered]
    exact nodup.filter _
  · rw [entered, List.mem_filter, decide_eq_true_iff, (v.counted_perm names).mem_iff, Std.ExtTreeSet.mem_toList]
    constructor
    · exact fun h => .inl h.2
    · rintro (ready | settled)
      · exact ⟨v.mem_ready_start names ready, ready⟩
      · cases settled
  · rw [events, List.mem_map] at h
    obtain ⟨_, -, h⟩ := h
    cases h

/-- Settling a name extends its log. The newly ready names were pending before, so they are not reported
twice. -/
theorem settle (hm : g.Mirrored) (hc : Sound g names c) (h : v.Recorded names c log) {s : String}
    (hs : s ∈ c.ready) : v.Recorded names
      ((v.dependents s).foldl Countdown.release ⟨c.waiting, c.ready.erase s, s :: c.settled⟩)
      (log ++ Countdown.releasingAll ⟨c.waiting, c.ready.erase s, s :: c.settled⟩ s (v.dependents s)) := by
  have nodup := v.nodup_dependents s
  have waits {t : String} (ht : t ∈ v.dependents s) : s ∈ g.pending names c.settled t :=
    (hc.mem_pending_of_ready hm hs).mpr (v.mem_dependents.mp ht)
  have counted (t : String) : c.waiting[t]?.isSome = decide (t ∈ names) := by
    rw [hc.waiting]
    split <;> simp [*]
  refine ⟨?_, ?_, fun x => ?_, fun u t n lowered => ?_⟩
  · rw [List.filterMap_append, h.edges, Countdown.edge?_releasingAll _ s nodup, Countdown.foldl_release_settled,
      List.reverse_cons, List.flatMap_append, List.flatMap_singleton]
    simp only [counted]
  · rw [List.filterMap_append, Countdown.name?_releasingAll _ s nodup]
    refine h.nodup.append (nodup.filter _) fun x old fresh => ?_
    exact hc.not_ready_or_settled (waits (List.mem_filter.mp fresh).1) ((h.mem_names x).mp old)
  · rw [List.filterMap_append, List.mem_append, h.mem_names, Countdown.name?_releasingAll _ s nodup,
      List.mem_filter, decide_eq_true_iff, Countdown.mem_foldl_release_ready _ nodup,
      Countdown.foldl_release_settled, NameSet.mem_erase, List.mem_cons]
    by_cases first : x = s
    · simp [first, hs]
    · simp only [first, ne_eq, not_false_eq_true, true_and, false_or]
      tauto
  · rcases List.mem_append.mp lowered with old | fresh
    · exact h.positive u t n old
    · rw [Countdown.releasingAll_eq _ s nodup, List.mem_flatMap] at fresh
      obtain ⟨x, hx, fresh⟩ := fresh
      obtain ⟨-, rfl, found⟩ := Countdown.lowered_mem_releasing fresh
      dsimp only at found
      rw [hc.waiting] at found
      split at found
      · cases found
        exact NameSet.size_pos (waits hx)
      · cases found

theorem step (hm : g.Mirrored) (hc : Sound g names c) (h : v.Recorded names c log) :
    v.Recorded names (v.step c) (log ++ v.settling c) := by
  rw [Visit.step, settling]
  cases hl : c.ready.toList with
  | nil => rwa [List.append_nil]
  | cons s rest => exact h.settle hm hc (Std.ExtTreeSet.mem_toList.mp (hl ▸ List.mem_cons_self))

theorem run (hm : g.Mirrored) (n : Nat) :
    v.Recorded names (v.run n (v.start names)) (v.events names n) := by
  induction n with
  | zero => exact .start v names
  | succ n ih =>
    rw [v.run_succ]
    exact ih.step hm (v.sound_run hm n)

theorem nodup_edges (hc : Sound g names c) (h : v.Recorded names c log) :
    (log.filterMap Countdown.Event.edge?).Nodup := by
  rw [h.edges, List.nodup_flatMap]
  refine ⟨fun s _ => ?_, ?_⟩
  · exact ((v.nodup_dependents s).filter _).map fun t u same => congrArg Prod.snd same
  · refine (List.nodup_reverse.mpr hc.settling.nodup).imp fun {s u} ne e left right => ?_
    obtain ⟨t, -, rfl⟩ := List.mem_map.mp left
    obtain ⟨w, -, same⟩ := List.mem_map.mp right
    exact ne (congrArg Prod.fst same).symm

theorem lowered (hc : Sound g names c) (h : v.Recorded names c log) {s t : String} {n : Nat}
    (mem : .lowered s t n ∈ log) : g.HasEdge s t ∧ s ∈ names ∧ t ∈ names ∧ 1 ≤ n := by
  have edge : (s, t) ∈ log.filterMap Countdown.Event.edge? := List.mem_filterMap.mpr ⟨_, mem, rfl⟩
  rw [h.edges, List.mem_flatMap] at edge
  obtain ⟨u, settled, edge⟩ := edge
  obtain ⟨w, hw, same⟩ := List.mem_map.mp edge
  cases same
  obtain ⟨dependent, listed⟩ := List.mem_filter.mp hw
  exact ⟨v.mem_dependents.mp dependent, hc.settling.subset s (List.mem_reverse.mp settled),
    decide_eq_true_iff.mp listed, h.positive s t n mem⟩

end Recorded
end Visit

/-- Every edge erased by an operation was counted. In every sort downstream of a name, each name becomes
ready at most once, each edge is decremented at most once and from a positive count, and after any number
of steps the counts are the numbers of unsettled precedents. The graph may be cyclic, and the sets may be
visited in any order. -/
theorem run_counts_down (ops : List Operation) :
    let g := empty.run ops
    (∀ (v : g.Visit) (op : Operation), op ≠ .clear → "" ∉ op.identifiers →
      op.attempt g = .ok ((g.eraseAll (op.erased v)).insertAll op.inserted) ∧
      ∀ before s t after, op.erased v = before ++ (s, t) :: after →
        let h := g.eraseAll before
        t ∈ h.dependents s → 1 ≤ h.edgeCount ∧ (h.erase s t).edgeCount + 1 = h.edgeCount) ∧
    ∀ (v : g.Visit) (start : String) (steps : Nat),
      let names := v.closure ∅ [start]
      let c := v.run steps (v.start names)
      let log := v.events names steps
      (log.filterMap Countdown.Event.name?).Nodup ∧
      (log.filterMap Countdown.Event.edge?).Nodup ∧
      (∀ s t n, .lowered s t n ∈ log → g.HasEdge s t ∧ s ∈ names ∧ t ∈ names ∧ 1 ≤ n) ∧
      ∀ x ∈ names, c.waiting[x]? = some (g.pending names c.settled x).size := by
  intro g
  have hg : g.Represents (Edges.run ∅ ops) := run_represents ops
  constructor
  · intro v op kept named
    refine ⟨hg.attempt_eq v kept named, fun before s t after _ present => ?_⟩
    exact (hg.eraseAll before).edgeCount_erase present
  · intro v start steps names c log
    have sound : Countdown.Sound g names c := v.sound_run hg.mirrored steps
    have recorded : v.Recorded names c log := .run hg.mirrored steps
    refine ⟨recorded.nodup, recorded.nodup_edges sound, fun s t n => recorded.lowered sound, fun x hx => ?_⟩
    rw [sound.waiting, if_pos hx]

/-- A sort with a self-reference and a two-name cycle. The names on cycles never become ready, but the
edges that enter them are decremented. -/
theorem run_counts_down_cycle :
    let ops : List Operation := [.setDependents "A1" ["B1", "D1", "E1"], .setPrecedents "B1" ["A1", "C1"],
      .add "B1" "C1", .add "D1" "D1"]
    let g := empty.run ops
    let v := Visit.sorted g
    let names := v.closure ∅ ["A1"]
    let log := v.events names 5
    let h := g.eraseAll [("A1", "B1")]
    log = [.ready "A1", .lowered "A1" "B1" 2, .lowered "A1" "D1" 2, .lowered "A1" "E1" 1, .ready "E1"] ∧
      (log.filterMap Countdown.Event.name?).Nodup ∧ (log.filterMap Countdown.Event.edge?).Nodup ∧
      (g.HasEdge "A1" "E1" ∧ "A1" ∈ names ∧ "E1" ∈ names ∧ 1 ≤ 1) ∧
      (v.run 5 (v.start names)).waiting["B1"]? = some 1 ∧
      "D1" ∈ h.dependents "A1" ∧ 1 ≤ h.edgeCount ∧ (h.erase "A1" "D1").edgeCount + 1 = h.edgeCount := by
  intro ops g v names log h
  have logged : log = [.ready "A1", .lowered "A1" "B1" 2, .lowered "A1" "D1" 2, .lowered "A1" "E1" 1,
      .ready "E1"] := by decide +kernel
  obtain ⟨erases, counts⟩ := run_counts_down ops
  obtain ⟨nodup, once, lowered, waits⟩ := counts v "A1" 5
  have count : (g.pending names (v.run 5 (v.start names)).settled "B1").size = 1 := by decide +kernel
  have present : "D1" ∈ h.dependents "A1" := by decide +kernel
  have cut : (Operation.setDependents "A1" []).erased v = [("A1", "B1")] ++ ("A1", "D1") :: [("A1", "E1")] := by
    decide +kernel
  have last : .lowered "A1" "E1" 1 ∈ log := by
    rw [logged]
    decide
  exact ⟨logged, nodup, once, lowered "A1" "E1" 1 last, count ▸ waits "B1" (by decide +kernel), present,
    (erases v (.setDependents "A1" []) (by simp) (by decide)).2 _ _ _ _ cut present⟩

end Worksheet.Graph
