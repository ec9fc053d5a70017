import Mathlib

/-!
# Kahn's algorithm

The nodes of a graph are visited in the order in which their last predecessor is visited.
`Sound` is what holds between two steps: the nodes visited or queued are the ones with no
predecessor left to visit, and nothing leads into them from outside. The loop ends with an
empty queue, and it has visited every node exactly if the graph has no cycle
(`run_visited`).
-/
namespace DwSuperApps.Lib.Kahn

open Relation

universe u
variable {α : Type u}

def Edge (edges : List (α × α)) (a b : α) : Prop := (a, b) ∈ edges

def Acyclic (edges : List (α × α)) : Prop := ∀ a, ¬ TransGen (Edge edges) a a

section Algorithm
variable [DecidableEq α]

/-! ## The algorithm -/

structure Tables (α : Type u) where
  successors : α → List α
  indegree : α → Int

/-- One edge entered in both tables. -/
def Tables.enter (t : Tables α) (edge : α × α) : Tables α where
  successors := Function.update t.successors edge.1 (t.successors edge.1 ++ [edge.2])
  indegree := Function.update t.indegree edge.2 (t.indegree edge.2 + 1)

def tables (edges : List (α × α)) : Tables α :=
  edges.foldl Tables.enter ⟨fun _ => [], fun _ => 0⟩

structure State (α : Type u) where
  indegree : α → Int
  queue : List α
  visited : Nat

/-- One edge into `node` less; a node without any is queued. -/
def State.release (s : State α) (node : α) : State α :=
  let left := s.indegree node - 1
  { s with
    indegree := Function.update s.indegree node left
    queue := if left = 0 then s.queue ++ [node] else s.queue }

def State.visit (successors : α → List α) (s : State α) (node : α) (rest : List α) : State α :=
  (successors node).foldl State.release { s with queue := rest, visited := s.visited + 1 }

/-- The loop over the queue. -/
def drain (successors : α → List α) : Nat → State α → State α
  | 0, s => s
  | fuel + 1, s =>
    match s.queue with
    | [] => s
    | node :: rest => drain successors fuel (s.visit successors node rest)

def start (nodes : List α) (edges : List (α × α)) : State α where
  indegree := (tables edges).indegree
  queue := nodes.filter fun node => (tables edges).indegree node = 0
  visited := 0

/-- As many rounds as there are nodes. -/
def run (nodes : List α) (edges : List (α × α)) : State α :=
  drain (tables edges).successors nodes.length (start nodes edges)

/-! ## The tables -/

theorem foldl_enter (edges : List (α × α)) (t : Tables α) :
    (∀ a, (edges.foldl Tables.enter t).successors a =
      t.successors a ++ (edges.filter (·.1 = a)).map Prod.snd) ∧
    ∀ b, (edges.foldl Tables.enter t).indegree b = t.indegree b + edges.countP (·.2 = b) := by
  induction edges generalizing t with
  | nil => simp
  | cons edge edges ih =>
    obtain ⟨successors, indegree⟩ := ih (t.enter edge)
    refine ⟨fun a => ?_, fun b => ?_⟩
    · rw [List.foldl_cons, successors]
      by_cases same : edge.1 = a
      · subst same
        simp [Tables.enter]
      · simp [Tables.enter, same, Function.update_of_ne (Ne.symm same)]
    · rw [List.foldl_cons, indegree]
      by_cases same : edge.2 = b
      · subst same
        simp only [Tables.enter, Function.update_self, List.countP_cons, decide_true, if_true]
        omega
      · simp [Tables.enter, same, Function.update_of_ne (Ne.symm same)]

theorem successors_eq (edges : List (α × α)) (a : α) :
    (tables edges).successors a = (edges.filter (·.1 = a)).map Prod.snd :=
  ((foldl_enter edges _).1 a).trans (List.nil_append _)

theorem indegree_eq (edges : List (α × α)) (b : α) :
    (tables edges).indegree b = edges.countP (·.2 = b) :=
  ((foldl_enter edges _).2 b).trans (zero_add _)

/-! ## The invariant -/

/-- Edges into `b` from nodes that are not visited. -/
def entering (edges : List (α × α)) (done : List α) (b : α) : Nat :=
  edges.countP fun edge => edge.2 = b ∧ edge.1 ∉ done

/-- `done` are the nodes visited so far, and `pending` the edges of the last one that are
still to be released. -/
structure Sound (nodes : List α) (edges : List (α × α)) (done pending : List α) (s : State α) :
    Prop where
  listed : (done ++ s.queue).Nodup
  within : ∀ a ∈ done ++ s.queue, a ∈ nodes
  counted : s.visited = done.length
  left : ∀ b, s.indegree b = (entering edges done b : Int) + pending.count b
  free : ∀ a ∈ nodes, a ∈ done ++ s.queue ↔ s.indegree a = 0
  grounded : ∀ a ∈ done ++ s.queue, Acc (Edge edges) a

variable {nodes : List α} {edges : List (α × α)} {done pending : List α} {s : State α}

theorem entering_nil (edges : List (α × α)) (b : α) :
    entering edges [] b = edges.countP (·.2 = b) := by
  simp [entering]

theorem entering_zero {b : α} (none : entering edges done b = 0) {a : α} (edge : Edge edges a b) :
    a ∈ done := by
  by_contra absent
  exact List.countP_eq_zero.mp none (a, b) edge (by simp [absent])

/-- Visiting a node takes its edges out of the count. -/
theorem entering_append {node : α} (fresh : node ∉ done) (b : α) :
    entering edges done b =
      entering edges (done ++ [node]) b + ((tables edges).successors node).count b := by
  rw [successors_eq]
  unfold entering
  induction edges with
  | nil => rfl
  | cons edge edges ih =>
    simp only [List.countP_cons, List.filter_cons, List.mem_append, List.mem_singleton] at ih ⊢
    rw [ih]
    generalize List.countP _ edges = others
    by_cases source : edge.1 = node
    · by_cases target : edge.2 = b
      · simp [source, target, fresh]
        omega
      · simp [source, target]
    · by_cases target : edge.2 = b
      · by_cases seen : edge.1 ∈ done
        · simp [source, target, seen]
        · simp [source, target, seen]
          omega
      · simp [source, target]

theorem start_sound (distinct : nodes.Nodup) : Sound nodes edges [] [] (start nodes edges) where
  listed := distinct.filter _
  within a member := List.mem_of_mem_filter member
  counted := rfl
  left b := by
    rw [entering_nil, List.count_nil]
    exact indegree_eq edges b
  free a member := by
    simp [start, member]
  grounded a member := by
    have free : (tables edges).indegree a = 0 := by
      simpa using List.of_mem_filter member
    rw [indegree_eq, Int.natCast_eq_zero, ← entering_nil] at free
    exact ⟨a, fun b edge => absurd (entering_zero free edge) List.not_mem_nil⟩

theorem release_sound {b : α} (inside : b ∈ nodes)
    (sound : Sound nodes edges done (b :: pending) s) :
    Sound nodes edges done pending (s.release b) := by
  have before := sound.left b
  rw [List.count_cons_self] at before
  -- an edge into `b` was left, so `b` was neither visited nor queued
  have absent : b ∉ done ++ s.queue := fun member => by
    have none := (sound.free b inside).mp member
    omega
  have after : ∀ c, (s.release b).indegree c = (entering edges done c : Int) + pending.count c := by
    intro c
    by_cases same : c = b
    · subst same
      simp only [State.release, Function.update_self]
      omega
    · simp only [State.release, Function.update_of_ne same]
      rw [sound.left c, List.count_cons_of_ne (Ne.symm same)]
  have others : ∀ c, c ≠ b → (s.release b).indegree c = s.indegree c := fun c differ => by
    simp only [State.release, Function.update_of_ne differ]
  by_cases last : s.indegree b - 1 = 0
  · have queue : (s.release b).queue = s.queue ++ [b] := if_pos last
    have zero : (s.release b).indegree b = 0 := by
      simp only [State.release, Function.update_self, last]
    refine ⟨?_, ?_, sound.counted, after, ?_, ?_⟩
    · rw [queue, ← List.append_assoc]
      refine sound.listed.append (List.nodup_singleton b) fun a member single => ?_
      rw [List.mem_singleton.mp single] at member
      exact absent member
    · rw [queue, ← List.append_assoc]
      intro a member
      rcases List.mem_append.mp member with old | new
      · exact sound.within a old
      · rw [List.mem_singleton.mp new]
        exact inside
    · intro a node
      rw [queue, ← List.append_assoc, List.mem_append, List.mem_singleton]
      by_cases same : a = b
      · subst same
        simp [zero]
      · rw [others a same, ← sound.free a node]
        simp [same]
    · rw [queue, ← List.append_assoc]
      intro a member
      rcases List.mem_append.mp member with old | new
      · exact sound.grounded a old
      · rw [List.mem_singleton.mp new]
        refine ⟨b, fun c edge => ?_⟩
        have none : entering edges done b = 0 := by
          have now := after b
          omega
        exact sound.grounded c (List.mem_append_left _ (entering_zero none edge))
  · have queue : (s.release b).queue = s.queue := if_neg last
    refine ⟨?_, ?_, sound.counted, after, ?_, ?_⟩
    · rw [queue]
      exact sound.listed
    · rw [queue]
      exact sound.within
    · intro a node
      rw [queue]
      by_cases same : a = b
      · subst same
        refine iff_of_false absent ?_
        simpa only [State.release, Function.update_self] using last
      · rw [others a same, ← sound.free a node]
    · rw [queue]
      exact sound.grounded

theorem foldl_release_sound (inside : ∀ b ∈ pending, b ∈ nodes)
    (sound : Sound nodes edges done pending s) :
    Sound nodes edges done [] (pending.foldl State.release s) := by
  induction pending generalizing s with
  | nil => exact sound
  | cons b pending ih =>
    rw [List.forall_mem_cons] at inside
    exact ih inside.2 (release_sound inside.1 sound)

theorem visit_sound (closed : ∀ edge ∈ edges, edge.2 ∈ nodes) {node : α} {rest : List α}
    (queue : s.queue = node :: rest) (sound : Sound nodes edges done [] s) :
    Sound nodes edges (done ++ [node]) [] (s.visit (tables edges).successors node rest) := by
  have shift : done ++ [node] ++ rest = done ++ s.queue := by
    rw [queue, List.append_assoc, List.singleton_append]
  have fresh : node ∉ done := fun member => by
    have listed := sound.listed
    rw [queue] at listed
    exact (List.nodup_append.mp listed).2.2 node member node List.mem_cons_self rfl
  refine foldl_release_sound ?_ ⟨?_, ?_, ?_, ?_, ?_, ?_⟩
  · intro b member
    rw [successors_eq] at member
    obtain ⟨edge, chosen, rfl⟩ := List.mem_map.mp member
    exact closed edge (List.mem_of_mem_filter chosen)
  · rw [shift]
    exact sound.listed
  · rw [shift]
    exact sound.within
  · rw [List.length_append, ← sound.counted]
    rfl
  · intro b
    have before := sound.left b
    rw [entering_append fresh b] at before
    simpa using before
  · rw [shift]
    exact sound.free
  · rw [shift]
    exact sound.grounded

/-- The loop ends with nothing queued. -/
theorem drain_sound (closed : ∀ edge ∈ edges, edge.2 ∈ nodes) {fuel : Nat}
    (enough : nodes.length ≤ done.length + fuel) (sound : Sound nodes edges done [] s) :
    (drain (tables edges).successors fuel s).queue = [] ∧
      ∃ all, Sound nodes edges all [] (drain (tables edges).successors fuel s) := by
  induction fuel generalizing done s with
  | zero =>
    refine ⟨?_, done, sound⟩
    have bound := (sound.listed.subperm sound.within).length_le
    rw [List.length_append] at bound
    exact List.length_eq_zero_iff.mp (by simp only [drain]; omega)
  | succ fuel ih =>
    rw [drain]
    cases queue : s.queue with
    | nil => exact ⟨queue, done, sound⟩
    | cons node rest =>
      refine ih ?_ (visit_sound closed queue sound)
      simp only [List.length_append, List.length_singleton]
      omega

end Algorithm

/-! ## Cycles -/

theorem not_self_of_acc {r : α → α → Prop} {a : α} (grounded : Acc r a) : ¬ r a a := by
  induction grounded with
  | intro a _ ih => exact fun loop => ih a loop loop

/-- Over finitely many nodes a property that every node takes from its predecessors holds of
all nodes of an acyclic graph. -/
theorem acyclic_induction {nodes : List α} {edges : List (α × α)} (acyclic : Acyclic edges)
    {P : α → Prop} (step : ∀ b ∈ nodes, (∀ a ∈ nodes, Edge edges a b → P a) → P b) :
    ∀ b ∈ nodes, P b := by
  let before (x y : {a // a ∈ nodes}) : Prop := TransGen (Edge edges) x.1 y.1
  have : Finite {a // a ∈ nodes} := nodes.finite_toSet
  have : IsTrans _ before := ⟨fun _ _ _ first second => first.trans second⟩
  have : Std.Irrefl before := ⟨fun x loop => acyclic x.1 loop⟩
  have grounded : WellFounded before := Finite.wellFounded_of_trans_of_irrefl before
  intro b member
  exact grounded.induction (C := fun x => P x.1) ⟨b, member⟩ fun x ih =>
    step x.1 x.2 fun a node edge => ih ⟨a, node⟩ (.single edge)

variable [DecidableEq α] {nodes : List α} {edges : List (α × α)}

/-- With nothing queued, the visited nodes are all of them exactly if there is no cycle. -/
theorem Sound.visited_all {done : List α} {s : State α} (empty : s.queue = [])
    (sound : Sound nodes edges done [] s) (distinct : nodes.Nodup)
    (closed : ∀ edge ∈ edges, edge.1 ∈ nodes ∧ edge.2 ∈ nodes) :
    s.visited = nodes.length ↔ Acyclic edges := by
  obtain ⟨listed, within, counted, left, free, grounded⟩ := sound
  rw [empty, List.append_nil] at listed within free grounded
  rw [counted]
  constructor
  · intro full a loop
    have all : nodes ⊆ done :=
      ((listed.subperm within).perm_of_length_le full.ge).symm.subset
    have node : a ∈ nodes := by
      obtain ⟨b, -, edge⟩ := TransGen.tail'_iff.mp loop
      exact (closed _ edge).2
    exact not_self_of_acc (grounded a (all node)).transGen loop
  · intro acyclic
    have all : ∀ b ∈ nodes, b ∈ done := acyclic_induction acyclic fun b node before => by
      rw [free b node, left b, List.count_nil]
      have none : entering edges done b = 0 := List.countP_eq_zero.mpr fun edge member => by
        obtain ⟨a, c⟩ := edge
        simp only [decide_eq_true_eq, not_and, not_not]
        rintro rfl
        exact before a (closed _ member).1 member
      simp [none]
    exact le_antisymm (listed.subperm within).length_le (distinct.subperm all).length_le

/-- The loop leaves nothing queued, and it has visited all nodes exactly if the graph has no
cycle. -/
theorem run_visited (distinct : nodes.Nodup)
    (closed : ∀ edge ∈ edges, edge.1 ∈ nodes ∧ edge.2 ∈ nodes) :
    (run nodes edges).queue = [] ∧ ((run nodes edges).visited = nodes.length ↔ Acyclic edges) := by
  obtain ⟨empty, done, sound⟩ := drain_sound (fun edge member => (closed edge member).2)
    (Nat.le_add_left _ _) (start_sound distinct)
  exact ⟨empty, sound.visited_all empty distinct closed⟩

end DwSuperApps.Lib.Kahn
