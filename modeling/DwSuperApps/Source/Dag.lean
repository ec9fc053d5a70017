import DwSuperApps.Lib.Kahn
import DwSuperApps.Source.RuntimeState

/-!
# Plan graph

`taskcontroller/kernel/dag.py`: the check of the contracts of a plan and the readiness of its
nodes. The run of a dependency is not compared with anything.
-/
namespace DwSuperApps.Source.Dag

open DwSuperApps.Lib DwSuperApps.Lib.Checked
open DwSuperApps.Source.Runtime (NodeStatus NodeState)

/-! ## Contracts -/

structure TaskRef where
  runId : String
  nodeId : String
  deriving DecidableEq

/-- What the plan checks read of a contract. -/
structure NodeContract where
  contractId : String := "?"
  nodeId : String
  dependencies : List TaskRef := []
  deriving DecidableEq

inductive PlanError where
  | unknownDependency (contractId nodeId : String)
  | cycleDetected
  deriving DecidableEq

def PlanError.message : PlanError → String
  | .unknownDependency contractId nodeId => s!"unknown dependency: run {contractId}, node {nodeId}"
  | .cycleDetected => "dependency graph contains a cycle"

/-! ## Validation -/

/-- A later contract of a node takes the place of an earlier one. -/
def planNodes (contracts : List NodeContract) : Dict String NodeContract :=
  ({} : Dict String NodeContract).update (contracts.map fun c => (c.nodeId, c))

/-- From a dependency to the node that names it, for every contract. -/
def planEdges (contracts : List NodeContract) : List (String × String) :=
  contracts.flatMap fun c => c.dependencies.map fun dep => (dep.nodeId, c.nodeId)

def checkDependencies (nodes : Dict String NodeContract) (c : NodeContract) : Except PlanError Unit :=
  checkAll
    (fun dep => ensure (nodes.contains dep.nodeId) (.unknownDependency c.contractId dep.nodeId))
    c.dependencies

/-- The number of nodes Kahn's algorithm visits. -/
def visitedNodes (contracts : List NodeContract) : Nat :=
  (Kahn.run ((planNodes contracts).entries.map Prod.fst) (planEdges contracts)).visited

/-- `validate_plan`. -/
def validatePlan (contracts : List NodeContract) : Except PlanError Unit :=
  if contracts = [] then .ok ()
  else do
    checkAll (checkDependencies (planNodes contracts)) contracts
    ensure (visitedNodes contracts = (planNodes contracts).entries.length) .cycleDetected

/-! ## Readiness -/

/-- `_DONE_STATUSES`. -/
def doneStatuses : List NodeStatus := [.done, .cancelled, .failed, .retryReady]

/-- The loop of `_readiness_for_node`. -/
def joinDependencies (nodes : Dict String NodeState) : List TaskRef → NodeStatus
  | [] => .ready
  | dep :: rest =>
    match nodes.get? dep.nodeId with
    | none => .blocked
    | some state =>
      if state.status ∈ [NodeStatus.failed, .cancelled] then .blocked
      else if state.status ∉ doneStatuses then .pending
      else joinDependencies nodes rest

/-- `_readiness_for_node`. -/
def readinessForNode (c : NodeContract) (state : NodeState) (nodes : Dict String NodeState) :
    NodeStatus :=
  if state.status ∈ doneStatuses then state.status else joinDependencies nodes c.dependencies

def readinessOf (nodes : Dict String NodeState) (c : NodeContract) : NodeStatus :=
  match nodes.get? c.nodeId with
  | none => .pending
  | some state => readinessForNode c state nodes

/-- `compute_readiness`. -/
def computeReadiness (contracts : List NodeContract)
    (nodeStates : Option (Dict String NodeState) := none) : Dict String NodeStatus :=
  let nodes := nodeStates.getD {}
  ({} : Dict String NodeStatus).update (contracts.map fun c => (c.nodeId, readinessOf nodes c))

end DwSuperApps.Source.Dag
