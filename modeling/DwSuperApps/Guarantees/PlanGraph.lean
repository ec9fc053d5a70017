import DwSuperApps.Source.Dag

/-!
# Plan graphs

The check of a plan and the readiness of its nodes (`kernel/dag.py`).

* a plan is accepted exactly if every dependency names a node of the plan and no node depends
  on itself, through whatever contracts; contracts of one node are merged (`validatePlan_ok`);
* the readiness of a node is the one of its contract, whatever the order of the contracts
  (`get?_computeReadiness`);
* the loop over the dependencies depends on their order only where one of them blocks and
  another is waited for (`joinDependencies_eq`).
-/
namespace DwSuperApps.Guarantees.PlanGraph

open Relation
open DwSuperApps.Lib DwSuperApps.Lib.Checked DwSuperApps.Source.Dag
open DwSuperApps.Source.Runtime (NodeStatus NodeState)

/-! ## Validation -/

/-- Every dependency names a node of the plan. -/
def KnownDependencies (contracts : List NodeContract) : Prop :=
  ∀ c ∈ contracts, ∀ dep ∈ c.dependencies, ∃ d ∈ contracts, d.nodeId = dep.nodeId

/-- A contract of `node` names `before` as a dependency. -/
def DependsOn (contracts : List NodeContract) (before node : String) : Prop :=
  ∃ c ∈ contracts, c.nodeId = node ∧ ∃ dep ∈ c.dependencies, dep.nodeId = before

def NoCycle (contracts : List NodeContract) : Prop :=
  ∀ node, ¬ TransGen (DependsOn contracts) node node

variable {contracts others : List NodeContract}

theorem edge_planEdges {before node : String} :
    Kahn.Edge (planEdges contracts) before node ↔ DependsOn contracts before node := by
  unfold Kahn.Edge planEdges DependsOn
  simp only [List.mem_flatMap, List.mem_map, Prod.mk.injEq]
  constructor
  · rintro ⟨c, member, dep, inside, rfl, rfl⟩
    exact ⟨c, member, rfl, dep, inside, rfl⟩
  · rintro ⟨c, member, rfl, dep, inside, rfl⟩
    exact ⟨c, member, dep, inside, rfl, rfl⟩

theorem acyclic_planEdges : Kahn.Acyclic (planEdges contracts) ↔ NoCycle contracts := by
  have same : Kahn.Edge (planEdges contracts) = DependsOn contracts := by
    funext before node
    exact propext edge_planEdges
  unfold Kahn.Acyclic NoCycle
  rw [same]

theorem get?_planNodes_isSome {node : String} :
    ((planNodes contracts).get? node).isSome ↔ ∃ c ∈ contracts, c.nodeId = node := by
  rw [planNodes, Dict.get?_update, Dict.get?_empty, Option.or_none, List.lookup_isSome_iff]
  constructor
  · rintro ⟨entry, member, same⟩
    obtain ⟨c, inside, rfl⟩ := List.mem_map.mp (List.mem_reverse.mp member)
    exact ⟨c, inside, (beq_iff_eq.mp same).symm⟩
  · rintro ⟨c, inside, rfl⟩
    exact ⟨_, List.mem_reverse.mpr (List.mem_map_of_mem inside), beq_self_eq_true _⟩

theorem mem_keys_planNodes {node : String} :
    node ∈ (planNodes contracts).entries.map Prod.fst ↔ ∃ c ∈ contracts, c.nodeId = node := by
  rw [← get?_planNodes_isSome, Option.isSome_iff_exists, List.mem_map]
  constructor
  · rintro ⟨⟨k, c⟩, member, rfl⟩
    exact ⟨c, Dict.get?_eq_some.mpr member⟩
  · rintro ⟨c, found⟩
    exact ⟨(node, c), Dict.get?_eq_some.mp found, rfl⟩

theorem checkDependencies_ok {u : Unit} :
    checkAll (checkDependencies (planNodes contracts)) contracts = .ok u ↔
      KnownDependencies contracts := by
  simp only [checkAll_ok, checkDependencies, ensure_ok, Dict.contains, get?_planNodes_isSome,
    KnownDependencies]

/-- In a plan with known dependencies every edge is between two nodes. -/
theorem planEdges_closed (known : KnownDependencies contracts) :
    ∀ edge ∈ planEdges contracts, edge.1 ∈ (planNodes contracts).entries.map Prod.fst ∧
      edge.2 ∈ (planNodes contracts).entries.map Prod.fst := by
  rintro ⟨before, node⟩ member
  obtain ⟨c, inside, rfl, dep, named, rfl⟩ := edge_planEdges.mp member
  exact ⟨mem_keys_planNodes.mpr (known c inside dep named), mem_keys_planNodes.mpr ⟨c, inside, rfl⟩⟩

theorem validatePlan_ok :
    validatePlan contracts = .ok () ↔ KnownDependencies contracts ∧ NoCycle contracts := by
  unfold validatePlan
  split
  · next empty =>
    subst empty
    refine iff_of_true rfl ⟨fun c member => absurd member List.not_mem_nil, fun node loop => ?_⟩
    obtain ⟨before, -, c, member, -⟩ := TransGen.tail'_iff.mp loop
    exact List.not_mem_nil member
  · simp only [bind_ok, ensure_ok, checkDependencies_ok, exists_const]
    refine and_congr_right fun known => ?_
    have visited := (Kahn.run_visited (planNodes contracts).distinct (planEdges_closed known)).2
    rw [List.length_map, acyclic_planEdges] at visited
    exact visited

/-! ## Readiness -/

section Readiness
variable {nodes : Dict String NodeState}

/-- The node of the dependency is absent, failed or cancelled. -/
def Blocking (nodes : Dict String NodeState) (dep : TaskRef) : Prop :=
  ∀ state ∈ nodes.get? dep.nodeId, state.status ∈ [NodeStatus.failed, .cancelled]

/-- The node of the dependency is there and not finished. -/
def Waiting (nodes : Dict String NodeState) (dep : TaskRef) : Prop :=
  ∃ state ∈ nodes.get? dep.nodeId, state.status ∉ doneStatuses

instance : DecidablePred (Blocking nodes) := fun dep => by
  unfold Blocking
  infer_instance

instance : DecidablePred (Waiting nodes) := fun dep => by
  unfold Waiting
  infer_instance

/-- One dependency blocks and another is waited for. -/
def Mixed (nodes : Dict String NodeState) (dependencies : List TaskRef) : Prop :=
  (∃ dep ∈ dependencies, Blocking nodes dep) ∧ ∃ dep ∈ dependencies, Waiting nodes dep

theorem not_waiting_of_blocking {dep : TaskRef} (blocks : Blocking nodes dep) :
    ¬ Waiting nodes dep := by
  rintro ⟨state, found, live⟩
  have status := blocks state found
  simp only [List.mem_cons, List.not_mem_nil, or_false] at status
  rcases status with failed | cancelled
  · exact live (failed ▸ by decide)
  · exact live (cancelled ▸ by decide)

/-- The loop ends at the first dependency that blocks or is waited for. -/
theorem joinDependencies_cons (dep : TaskRef) (rest : List TaskRef) :
    (Blocking nodes dep ∧ joinDependencies nodes (dep :: rest) = .blocked) ∨
      (Waiting nodes dep ∧ joinDependencies nodes (dep :: rest) = .pending) ∨
      (¬ Blocking nodes dep ∧ ¬ Waiting nodes dep ∧
        joinDependencies nodes (dep :: rest) = joinDependencies nodes rest) := by
  unfold Blocking Waiting
  rw [joinDependencies]
  cases found : nodes.get? dep.nodeId with
  | none => exact .inl ⟨by simp, rfl⟩
  | some state =>
    simp only [Option.mem_def, Option.some.injEq, forall_eq', exists_eq_left']
    by_cases blocks : state.status ∈ [NodeStatus.failed, .cancelled]
    · exact .inl ⟨blocks, if_pos blocks⟩
    · by_cases live : state.status ∉ doneStatuses
      · exact .inr (.inl ⟨live, by rw [if_neg blocks, if_pos live]⟩)
      · exact .inr (.inr ⟨blocks, live, by rw [if_neg blocks, if_neg live]⟩)

/-- What the loop answers where the dependencies do not both block and wait. -/
theorem joinDependencies_eq {dependencies : List TaskRef} (plain : ¬ Mixed nodes dependencies) :
    joinDependencies nodes dependencies =
      if ∃ dep ∈ dependencies, Blocking nodes dep then .blocked
      else if ∃ dep ∈ dependencies, Waiting nodes dep then .pending
      else .ready := by
  induction dependencies with
  | nil => simp [joinDependencies]
  | cons dep rest ih =>
    have later : ¬ Mixed nodes rest := fun mixed => by
      obtain ⟨⟨a, first, blocks⟩, b, second, waits⟩ := mixed
      exact plain ⟨⟨a, List.mem_cons_of_mem _ first, blocks⟩, b, List.mem_cons_of_mem _ second, waits⟩
    rcases @joinDependencies_cons nodes dep rest with
      ⟨blocks, result⟩ | ⟨waits, result⟩ | ⟨free, idle, result⟩
    · rw [result, if_pos ⟨dep, List.mem_cons_self, blocks⟩]
    · have free : ¬ ∃ a ∈ dep :: rest, Blocking nodes a := fun blocked =>
        plain ⟨blocked, dep, List.mem_cons_self, waits⟩
      rw [result, if_neg free, if_pos ⟨dep, List.mem_cons_self, waits⟩]
    · rw [result, ih later]
      simp only [List.exists_mem_cons_iff, free, idle, false_or]

/-- Reordered dependencies that do not both block and wait are joined alike. -/
theorem joinDependencies_perm {a b : List TaskRef} (same : a.Perm b) (plain : ¬ Mixed nodes a) :
    joinDependencies nodes a = joinDependencies nodes b := by
  have other : ¬ Mixed nodes b := by
    unfold Mixed at plain ⊢
    simpa only [same.mem_iff] using plain
  rw [joinDependencies_eq plain, joinDependencies_eq other]
  simp only [same.mem_iff]

/-! ## Order of the contracts and of the dependencies -/

/-- The readiness of a node is the one of its only contract. -/
theorem get?_computeReadiness (states : Option (Dict String NodeState))
    (distinct : (contracts.map (·.nodeId)).Nodup) {c : NodeContract} (member : c ∈ contracts) :
    (computeReadiness contracts states).get? c.nodeId = some (readinessOf (states.getD {}) c) := by
  have keys : ((contracts.map fun c => (c.nodeId, readinessOf (states.getD {}) c)).map
      Prod.fst).Nodup := by
    rw [List.map_map]
    exact distinct
  rw [computeReadiness, Dict.get?_update_entries _ keys, Dict.get?_empty, Option.or_none,
    Dict.lookup_eq_some keys]
  exact List.mem_map.mpr ⟨c, member, rfl⟩

theorem get?_computeReadiness_none (states : Option (Dict String NodeState)) {node : String}
    (absent : node ∉ contracts.map (·.nodeId)) :
    (computeReadiness contracts states).get? node = none := by
  rw [computeReadiness, Dict.get?_update, Dict.get?_empty, Option.or_none, List.lookup_eq_none_iff]
  rintro ⟨k, status⟩ member
  obtain ⟨c, inside, same⟩ := List.mem_map.mp (List.mem_reverse.mp member)
  obtain ⟨rfl, -⟩ := Prod.mk.inj same
  have differ : node ≠ c.nodeId := fun same => absent (same ▸ List.mem_map_of_mem inside)
  simpa using differ

theorem computeReadiness_perm (states : Option (Dict String NodeState))
    (distinct : (contracts.map (·.nodeId)).Nodup) (same : others.Perm contracts) (node : String) :
    (computeReadiness others states).get? node = (computeReadiness contracts states).get? node := by
  have ids := same.map NodeContract.nodeId
  by_cases known : node ∈ contracts.map (·.nodeId)
  · obtain ⟨c, member, rfl⟩ := List.mem_map.mp known
    rw [get?_computeReadiness states distinct member,
      get?_computeReadiness states (ids.nodup_iff.mpr distinct) (same.mem_iff.mpr member)]
  · rw [get?_computeReadiness_none states known,
      get?_computeReadiness_none states (fun member => known (ids.mem_iff.mp member))]

/-- The same contract but for the order of its dependencies. -/
def SameBut (c d : NodeContract) : Prop :=
  d.contractId = c.contractId ∧ d.nodeId = c.nodeId ∧ d.dependencies.Perm c.dependencies

/-- The same plan in another order of contracts and of dependencies. -/
def Reordered (contracts others : List NodeContract) : Prop :=
  ∃ middle, List.Forall₂ SameBut contracts middle ∧ others.Perm middle

theorem readinessOf_sameBut {c d : NodeContract} (same : SameBut c d)
    (plain : ¬ Mixed nodes c.dependencies) : readinessOf nodes d = readinessOf nodes c := by
  obtain ⟨-, node, dependencies⟩ := same
  unfold readinessOf readinessForNode
  rw [node, joinDependencies_perm dependencies.symm plain]

theorem computeReadiness_reordered (states : Option (Dict String NodeState))
    (distinct : (contracts.map (·.nodeId)).Nodup) (same : Reordered contracts others)
    {c : NodeContract} (member : c ∈ contracts)
    (plain : ¬ Mixed (states.getD {}) c.dependencies) :
    (computeReadiness others states).get? c.nodeId =
      (computeReadiness contracts states).get? c.nodeId := by
  obtain ⟨middle, alike, perm⟩ := same
  have ids : middle.map (·.nodeId) = contracts.map (·.nodeId) := by
    clear member perm distinct
    induction alike with
    | nil => rfl
    | cons first _ ih => rw [List.map_cons, List.map_cons, first.2.1, ih]
  have unique : (middle.map (·.nodeId)).Nodup := ids ▸ distinct
  obtain ⟨d, inside, pair⟩ : ∃ d ∈ middle, SameBut c d := by
    clear ids unique perm distinct
    induction alike with
    | nil => cases member
    | cons first _ ih =>
      rcases List.mem_cons.mp member with rfl | later
      · exact ⟨_, List.mem_cons_self, first⟩
      · obtain ⟨d, inside, pair⟩ := ih later
        exact ⟨d, List.mem_cons_of_mem _ inside, pair⟩
  rw [computeReadiness_perm states unique perm, get?_computeReadiness states distinct member,
    ← readinessOf_sameBut pair plain, ← pair.2.1, get?_computeReadiness states unique inside]

end Readiness

/-- A plan is accepted exactly if its dependencies are known and have no cycle; and the
readiness of the nodes of an accepted plan with one contract a node depends neither on the order
of the contracts nor, where no node both blocks and is waited for, on that of the
dependencies. -/
theorem plan_checked (contracts : List NodeContract) :
    (validatePlan contracts = .ok () ↔ KnownDependencies contracts ∧ NoCycle contracts) ∧
      (validatePlan contracts = .ok () → (contracts.map (·.nodeId)).Nodup →
        ∀ (states : Option (Dict String NodeState)) (others : List NodeContract),
          (others.Perm contracts → ∀ node, (computeReadiness others states).get? node =
            (computeReadiness contracts states).get? node) ∧
          (Reordered contracts others → ∀ c ∈ contracts,
            ¬ Mixed (states.getD {}) c.dependencies →
              (computeReadiness others states).get? c.nodeId =
                (computeReadiness contracts states).get? c.nodeId)) :=
  ⟨validatePlan_ok, fun _ distinct states _ =>
    ⟨fun same node => computeReadiness_perm states distinct same node,
      fun same _ member plain => computeReadiness_reordered states distinct same member plain⟩⟩

def node (id : String) (dependencies : List String) : NodeContract :=
  ⟨"c." ++ id, id, dependencies.map (TaskRef.mk "run.1")⟩

theorem plan_checked_witness :
    (computeReadiness [node "b" ["a"], node "a" []]
        (some { entries := [("b", ⟨.pending, none, none, none, []⟩),
          ("a", ⟨.done, none, none, none, []⟩)] })).get? "b" =
      (computeReadiness [node "a" [], node "b" ["a"]]
        (some { entries := [("b", ⟨.pending, none, none, none, []⟩),
          ("a", ⟨.done, none, none, none, []⟩)] })).get? "b" :=
  (((plan_checked [node "a" [], node "b" ["a"]]).2 (by decide) (by decide) _
    [node "b" ["a"], node "a" []]).1 (List.Perm.swap _ _ _)) "b"

/-- Two contracts of one node are accepted. -/
theorem validatePlan_repeated :
    validatePlan [node "a" [], node "a" []] = .ok () ∧
      ¬ ∀ contracts, validatePlan contracts = .ok () ↔ (contracts.map (·.nodeId)).Nodup ∧
        KnownDependencies contracts ∧ NoCycle contracts := by
  have accepted : validatePlan [node "a" [], node "a" []] = .ok () := by decide
  refine ⟨accepted, fun claimed => ?_⟩
  exact absurd ((claimed _).mp accepted).1 (by decide)

end DwSuperApps.Guarantees.PlanGraph
