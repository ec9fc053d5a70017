import DwSuperApps.Source.TerminalBuild

/-!
# Certification stability

`taskcontroller/runtime/certification_stability.py` over the records of
`certification_models.py`: the streak of W8 runs and the repetitions of a W9 case. The
loops are folds of one step, a seen-set is a list of what was added to it.

Left out: the fields of a run and of a finding that neither evaluation reads.
-/
namespace DwSuperApps.Source.Certification

open DwSuperApps.Lib DwSuperApps.Lib.Checked
open DwSuperApps.Source.Envelope (Raised)
open DwSuperApps.Source.TerminalResult (upper)

/-! ## Records -/

structure SourceRevision where
  repository : String
  branch : String
  startSha : String
  endSha : String
  deriving DecidableEq

structure ExecutionReceipt where
  executionId : String
  startedAt : String
  endedAt : String
  controllerSeqStart : Nat
  controllerSeqEnd : Nat
  executorSeqStart : Nat
  executorSeqEnd : Nat
  cursorBefore : String
  cursorAfter : String
  semanticStepReceiptDigests : List String
  localValidationReceipts : List String := []
  githubWorkflowReceipts : List Json := []
  authorityReceiptRefs : List String := []
  deriving DecidableEq

namespace ExecutionReceipt

/-- `_content_dict`. -/
def contentDict (r : ExecutionReceipt) : List (String × Json) := [
  ("execution_id", .str r.executionId),
  ("started_at", .str r.startedAt),
  ("ended_at", .str r.endedAt),
  ("controller_seq_start", .int r.controllerSeqStart),
  ("controller_seq_end", .int r.controllerSeqEnd),
  ("executor_seq_start", .int r.executorSeqStart),
  ("executor_seq_end", .int r.executorSeqEnd),
  ("cursor_before", .str r.cursorBefore),
  ("cursor_after", .str r.cursorAfter),
  ("semantic_step_receipt_digests", .arr (r.semanticStepReceiptDigests.map .str)),
  ("local_validation_receipts", .arr (r.localValidationReceipts.map .str)),
  ("github_workflow_receipts", .arr r.githubWorkflowReceipts),
  ("authority_receipt_refs", .arr (r.authorityReceiptRefs.map .str))]

variable [Sha256]

def executionReceiptDigest (r : ExecutionReceipt) : Digest := canonicalDigest (.obj r.contentDict)

end ExecutionReceipt

structure TestRun where
  runId : String
  caseId : String
  caseRevision : String
  runtime : SourceRevision
  subject : SourceRevision
  gwcSha : String
  runtimePlanDigest : String
  executor : String
  model : String
  verdict : String
  evidence : List (String × Json) := []
  executionReceipt : Option ExecutionReceipt := none
  deriving DecidableEq

structure RuntimeFinding where
  findingId : String
  severity : String
  status : String
  deriving DecidableEq

structure W8StabilityResult where
  stable : Bool
  cleanStreak : Nat
  qualifyingRunIds : List String
  resetReason : String := ""
  deriving DecidableEq

structure DeepCaseStabilityResult where
  caseId : String
  stable : Bool
  qualifyingCount : Nat
  qualifyingRunIds : List String
  resetReason : String := ""
  deriving DecidableEq

/-! ## Run qualification -/

/-- `_GREEN_CI`. -/
def greenCi : List String := ["PASS", "SUCCESS", "GREEN", "OK"]

/-- `_truthy_negative`. -/
def truthyNegative (evidence : List (String × Json)) (keys : List String) : Option String :=
  keys.find? fun key => Json.get evidence key = .bool true

/-- `str(mapping.get(key, "")).upper() in _GREEN_CI`. -/
def isGreen (mapping : List (String × Json)) (key : String) : Bool :=
  greenCi.contains (upper ((Json.member mapping key).elim "" Json.pyStr))

/-- `_ci_is_green`. -/
def ciIsGreen (evidence : List (String × Json)) : Bool :=
  match Json.get evidence "ci" with
  | .obj ci => isGreen ci "status"
  | _ => false

def negativeKeys : List String := ["plan_bypass", "unauthorized_effect", "stale_sequence_accepted",
  "authority_bypass", "human_plane_machine_truth_mismatch"]

/-- `_base_qualifies`: why the run does not qualify, or `none`. -/
def baseQualifies (run : TestRun) : Option String :=
  if upper run.verdict ≠ "PASS" then some "verdict"
  else if run.executionReceipt = none then some "execution receipt missing"
  else if ciIsGreen run.evidence = false then some "ci"
  else truthyNegative run.evidence negativeKeys

/-- `_runtime_identity`. -/
def runtimeIdentity (run : TestRun) : String × String × String × String × String :=
  (run.caseRevision, run.runtime.endSha, run.subject.endSha, run.gwcSha, run.runtimePlanDigest)

section
variable [Sha256]

/-- What was seen of the physical executions. -/
structure Observed where
  executionIds : List String := []
  receiptDigests : List Digest := []

/-- `execution_id in … or receipt_digest in …`. -/
def Observed.replays (seen : Observed) (receipt : ExecutionReceipt) : Prop :=
  receipt.executionId ∈ seen.executionIds ∨ receipt.executionReceiptDigest ∈ seen.receiptDigests

instance (seen : Observed) (receipt : ExecutionReceipt) : Decidable (seen.replays receipt) := by
  unfold Observed.replays; infer_instance

def Observed.add (seen : Observed) (receipt : ExecutionReceipt) : Observed where
  executionIds := receipt.executionId :: seen.executionIds
  receiptDigests := receipt.executionReceiptDigest :: seen.receiptDigests

/-! ## W8 -/

structure Streak where
  streak : List TestRun := []
  previousIdentity : Option (String × String × String × String × String) := none
  observed : Observed := {}
  resetReason : String := ""

/-- The streak is broken. -/
def Streak.reset (s : Streak) (reason : String) : Streak :=
  { s with streak := [], previousIdentity := none, resetReason := reason }

/-- A run whose execution was not seen before. -/
def Streak.judge (targetSha : Option String) (s : Streak) (run : TestRun) : Streak :=
  if ∃ sha ∈ targetSha, run.runtime.endSha ≠ sha then s.reset "runtime SHA mismatch or stale run"
  else match baseQualifies run with
  | some reason => s.reset ("non-qualifying evidence: " ++ reason)
  | none =>
    if ∃ previous ∈ s.previousIdentity, runtimeIdentity run ≠ previous then
      { s with
        streak := [run]
        previousIdentity := some (runtimeIdentity run)
        resetReason := "runtime/source identity changed" }
    else { s with streak := s.streak ++ [run], previousIdentity := some (runtimeIdentity run) }

/-- One round of the loop. -/
def Streak.step (targetSha : Option String) (s : Streak) (run : TestRun) : Streak :=
  match run.executionReceipt with
  | none => s.judge targetSha run
  | some receipt =>
    if s.observed.replays receipt then
      s.reset "execution receipt replay or duplicate ExecutionIdentity"
    else { s with observed := s.observed.add receipt }.judge targetSha run

/-- An unresolved P0 or P1. -/
def RuntimeFinding.blocks (finding : RuntimeFinding) : Prop :=
  (upper finding.severity = "P0" ∨ upper finding.severity = "P1") ∧ upper finding.status ≠ "RESOLVED"

instance (finding : RuntimeFinding) : Decidable finding.blocks := by
  unfold RuntimeFinding.blocks; infer_instance

def TestRun.recovered (run : TestRun) : Prop :=
  Json.get run.evidence "fresh_controller_recovery" = .bool true

instance (run : TestRun) : Decidable run.recovered := by unfold TestRun.recovered; infer_instance

/-- `expected_runtime_sha or (runs[-1].runtime.end_sha if runs else None)`. -/
def targetSha (runs : List TestRun) (expectedRuntimeSha : Option String) : Option String :=
  match expectedRuntimeSha with
  | some "" | none => runs.getLast?.map (·.runtime.endSha)
  | some sha => some sha

def evaluateW8Stability (runs : List TestRun) (findings : List RuntimeFinding)
    (expectedRuntimeSha : Option String) (requiredStreak : Int) : Except Raised W8StabilityResult :=
  if requiredStreak < 1 then .error ⟨.valueError, "", "required_streak must be positive"⟩
  else
    let s := runs.foldl (Streak.step (targetSha runs expectedRuntimeSha)) {}
    let unresolved := findings.filter fun finding => finding.blocks
    let recoverySeen := s.streak.any fun run => run.recovered
    let stable := decide (requiredStreak ≤ s.streak.length) && recoverySeen && unresolved.isEmpty
    let missing := if !recoverySeen && !s.streak.isEmpty && s.resetReason = "" then
      "durable recovery evidence missing" else s.resetReason
    let blocked := if unresolved.isEmpty then missing else "unresolved P0/P1 finding"
    .ok {
      stable := stable
      cleanStreak := s.streak.length
      qualifyingRunIds := s.streak.map (·.runId)
      resetReason := if stable then "" else blocked }

/-! ## W9 -/

/-- `_matrix_is_green`. -/
def matrixIsGreen (run : TestRun) (requiredRows : List String) : Bool :=
  requiredRows.isEmpty ||
    match Json.get run.evidence "injection_matrix" with
    | .obj matrix => requiredRows.all fun row => isGreen matrix row
    | _ => false

structure Repetition where
  qualifying : List TestRun := []
  seen : Observed := {}
  lastReason : String := ""

/-- One round of the loop. -/
def Repetition.step (requiredRows : List String) (s : Repetition) (run : TestRun) : Repetition :=
  match baseQualifies run, run.executionReceipt with
  | some reason, _ => { s with lastReason := "non-qualifying evidence: " ++ reason }
  | none, none => s
  | none, some receipt =>
    if s.seen.replays receipt then
      { s with lastReason := "execution receipt replay or duplicate ExecutionIdentity" }
    else if matrixIsGreen run requiredRows = false then { s with lastReason := "injection matrix incomplete" }
    else { s with qualifying := s.qualifying ++ [run], seen := s.seen.add receipt }

/-- The loop over the runs of a case. -/
def repeated (caseId : String) (requiredRows : List String) (runs : List TestRun) : Repetition :=
  (runs.filter fun run => run.caseId = caseId).foldl (Repetition.step requiredRows) {}

def evaluateDeepCaseStability (caseId : String) (runs : List TestRun) (threshold minimumIdentities : Int)
    (requiredRows : List String) : Except Raised DeepCaseStabilityResult :=
  if threshold < 1 ∨ minimumIdentities < 1 then
    .error ⟨.valueError, "", "threshold and minimum_identities must be positive"⟩
  else
    let s := repeated caseId requiredRows runs
    let identityCount := ((s.qualifying.map fun run => (run.executor, run.model)).dedup).length
    let stable := decide (threshold ≤ s.qualifying.length) && decide (minimumIdentities ≤ identityCount)
    let reason := if (identityCount : Int) < minimumIdentities then
      "insufficient executor/model identities" else s.lastReason
    .ok {
      caseId := caseId
      stable := stable
      qualifyingCount := s.qualifying.length
      qualifyingRunIds := s.qualifying.map (·.runId)
      resetReason := if stable then "" else reason }

end

end DwSuperApps.Source.Certification
