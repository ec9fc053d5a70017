import DwSuperApps.Lib.Checked
import DwSuperApps.Lib.Keyed
import DwSuperApps.Lib.Sorted
import DwSuperApps.Source.Findings

/-!
# Initial-finding receipts

`taskcontroller/execution/initial_finding_receipt.py`: one receipt per required
reviewer session and the append-only ledger of them. A ledger is what its constructor
leaves: requirements and receipts sorted by reviewer, one of each per reviewer, every
receipt bound to its requirement.
-/
namespace DwSuperApps.Source.FindingReceipts

open DwSuperApps.Lib DwSuperApps.Lib.Checked DwSuperApps.Lib.Sorted
open DwSuperApps.Source.Findings (NormalizedFinding Rendering)

/-! ## Failures -/

inductive Code where
  | duplicateConflict | bindingMismatch | requirementInvalid | receiptsIncomplete | ledgerSealed
  deriving DecidableEq

def Code.value : Code → String
  | .duplicateConflict => "RECEIPT_DUPLICATE_CONFLICT"
  | .bindingMismatch => "RECEIPT_BINDING_MISMATCH"
  | .requirementInvalid => "RECEIPT_REQUIREMENT_INVALID"
  | .receiptsIncomplete => "INITIAL_RECEIPTS_INCOMPLETE"
  | .ledgerSealed => "RECEIPT_LEDGER_SEALED"

/-- `InitialFindingReceiptError`. -/
structure Failure where
  code : Code
  message : String
  deriving DecidableEq

/-- The text of the exception. -/
def Failure.text (f : Failure) : String := s!"{f.code.value}: {f.message}"

/-! ## Digests of findings -/

section Digests
variable [Rendering]

/-- Key of `_normalize_findings`. The texts are compared by code point, as their
UTF-8 bytes are. -/
def findingKey (f : NormalizedFinding) : String ×ₗ String :=
  toLex (f.findingId.value, f.toDict.canonicalText)

/-- `_normalize_findings`. -/
def normalizeFindings (findings : List NormalizedFinding) : List NormalizedFinding :=
  sortedBy findingKey findings

/-- `digest_findings`. -/
def digestFindings [Sha256] (findings : List NormalizedFinding) : Digest :=
  canonicalDigest (.obj [("findings", .arr ((normalizeFindings findings).map (·.toDict)))])

end Digests

/-! ## Requirements and receipts -/

/-- `ReviewerReceiptRequirement`. -/
structure ReviewerReceiptRequirement where
  runId : Ident 128
  nodeId : Ident 128
  attemptId : Ident 128
  reviewerId : Ident 128
  sessionId : Ident 128
  contextId : Ident 128
  sourceDigest : Digest
  standardsProfileDigest : Digest
  standardsContextDigest : Digest
  deriving DecidableEq

/-- The fields a receipt is compared in, in order. -/
def ReviewerReceiptRequirement.fields (r : ReviewerReceiptRequirement) : List (String × String) :=
  [("run_id", r.runId.value), ("node_id", r.nodeId.value), ("attempt_id", r.attemptId.value),
    ("reviewer_id", r.reviewerId.value), ("session_id", r.sessionId.value),
    ("context_id", r.contextId.value), ("source_digest", r.sourceDigest.value),
    ("standards_profile_digest", r.standardsProfileDigest.value),
    ("standards_context_digest", r.standardsContextDigest.value)]

def ReviewerReceiptRequirement.toDict (r : ReviewerReceiptRequirement) : Json :=
  .obj (r.fields.map fun entry => (entry.1, .str entry.2))

/-- `InitialFindingReceipt`: the session it is bound to, the digest of its findings and
the timestamp its constructor accepted. -/
structure InitialFindingReceipt extends ReviewerReceiptRequirement where
  findingDigest : Digest
  recordedAt : String
  deriving DecidableEq

namespace InitialFindingReceipt

def initialFindingReceiptProtocol : String := "dw.taskcontroller.initial-finding-receipt/v1"

/-- `_payload_without_digest`. -/
def payloadWithoutDigest (r : InitialFindingReceipt) : List (String × Json) :=
  [("protocol", .str initialFindingReceiptProtocol), ("phase", .str "INITIAL_FIRST_PASS")] ++
    r.fields.map (fun entry => (entry.1, Json.str entry.2)) ++
    [("finding_digest", .str r.findingDigest.value), ("recorded_at", .str r.recordedAt)]

variable [Sha256]

def receiptDigest (r : InitialFindingReceipt) : Digest := canonicalDigest (.obj r.payloadWithoutDigest)

def toDict (r : InitialFindingReceipt) : Json :=
  .obj (r.payloadWithoutDigest ++ [("receipt_digest", .str r.receiptDigest.value)])

end InitialFindingReceipt

/-! ## Ledger -/

def reviewerOf (r : ReviewerReceiptRequirement) : String := r.reviewerId.value

def receiptReviewer (r : InitialFindingReceipt) : String := r.reviewerId.value

/-- `InitialFindingReceiptLedger`. -/
structure InitialFindingReceiptLedger where
  requiredSessions : List ReviewerReceiptRequirement
  receipts : List InitialFindingReceipt := []
  isSealed : Bool := false
  required : requiredSessions ≠ []
  requiredSorted : requiredSessions.Pairwise (reviewerOf · < reviewerOf ·)
  receiptsSorted : receipts.Pairwise (receiptReviewer · < receiptReviewer ·)
  bound : ∀ r ∈ receipts, r.toReviewerReceiptRequirement ∈ requiredSessions
  complete : isSealed = true → ∀ q ∈ requiredSessions, ∃ r ∈ receipts, r.reviewerId = q.reviewerId

namespace InitialFindingReceiptLedger

/-- The first field of a receipt that is not the required one. -/
def mismatch (receipt : InitialFindingReceipt) (expected : ReviewerReceiptRequirement) :
    Option String :=
  ((receipt.fields.zip expected.fields).find? fun pair => pair.1.2 ≠ pair.2.2).map (·.1.1)

/-- `_validate_binding`. -/
def validateBinding (requirements : List ReviewerReceiptRequirement) (receipt : InitialFindingReceipt) :
    Except Failure Unit :=
  match requirements.find? (reviewerOf · = receiptReviewer receipt) with
  | none => .error ⟨.bindingMismatch, s!"receipt reviewer {receipt.reviewerId.value} is not required"⟩
  | some expected =>
    match mismatch receipt expected with
    | none => .ok ()
    | some field =>
      .error ⟨.bindingMismatch, s!"receipt {field} does not match required reviewer binding"⟩

theorem mismatch_none {receipt : InitialFindingReceipt} {expected : ReviewerReceiptRequirement} :
    mismatch receipt expected = none ↔ receipt.toReviewerReceiptRequirement = expected := by
  obtain ⟨⟨run, node, attempt, reviewer, session, context, source, profile, standards⟩, _, _⟩ := receipt
  obtain ⟨run', node', attempt', reviewer', session', context', source', profile', standards'⟩ := expected
  unfold mismatch
  rw [Option.map_eq_none_iff, List.find?_eq_none]
  simp only [ReviewerReceiptRequirement.fields, List.zip_cons_cons, List.zip_nil_right,
    List.forall_mem_cons, List.not_mem_nil, false_implies, implies_true, and_true,
    decide_eq_true_eq, not_not, ReviewerReceiptRequirement.mk.injEq, Ident.ext_iff, Digest.ext_iff]

/-- A receipt passes when it is bound to one of the requirements. -/
theorem validateBinding_ok {requirements : List ReviewerReceiptRequirement}
    (distinct : (requirements.map reviewerOf).Nodup) {receipt : InitialFindingReceipt} :
    validateBinding requirements receipt = .ok () ↔
      receipt.toReviewerReceiptRequirement ∈ requirements := by
  unfold validateBinding
  cases found : requirements.find? (reviewerOf · = receiptReviewer receipt) with
  | none =>
    have absent := Keyed.find_none found
    simp only [reduceCtorEq, false_iff]
    exact fun member => absent _ member rfl
  | some expected =>
    obtain ⟨held, same⟩ := Keyed.find_some found
    dsimp only
    cases off : mismatch receipt expected with
    | none =>
      simp only [true_iff]
      rw [mismatch_none.mp off]
      exact held
    | some field =>
      simp only [reduceCtorEq, false_iff]
      intro member
      have own := List.inj_on_of_nodup_map distinct member held (show reviewerOf _ = _ from same.symm)
      rw [mismatch_none.mpr own] at off
      cases off

/-- Each receipt is the first of its reviewer and bound. -/
def checkReceipts (requirements : List ReviewerReceiptRequirement) :
    List InitialFindingReceipt → List InitialFindingReceipt → Except Failure Unit
  | _, [] => .ok ()
  | seen, receipt :: rest => do
    ensure (receiptReviewer receipt ∉ seen.map receiptReviewer)
      ⟨.duplicateConflict, s!"multiple receipts for {receipt.reviewerId.value}"⟩
    validateBinding requirements receipt
    checkReceipts requirements (seen ++ [receipt]) rest

theorem checkReceipts_ok {requirements : List ReviewerReceiptRequirement}
    (distinct : (requirements.map reviewerOf).Nodup) {seen receipts : List InitialFindingReceipt} :
    checkReceipts requirements seen receipts = .ok () ↔
      (receipts.map receiptReviewer).Nodup ∧
        (∀ r ∈ receipts, receiptReviewer r ∉ seen.map receiptReviewer) ∧
        ∀ r ∈ receipts, r.toReviewerReceiptRequirement ∈ requirements := by
  induction receipts generalizing seen with
  | nil => simp [checkReceipts]
  | cons receipt rest ih =>
    rw [checkReceipts, bind_ok]
    simp only [ensure_ok, bind_ok, validateBinding_ok distinct, ih, List.map_append,
      List.map_cons, List.map_nil, List.mem_append, List.mem_singleton, List.nodup_cons,
      List.forall_mem_cons, exists_const, not_or]
    constructor
    · rintro ⟨new, held, once, others, bound⟩
      refine ⟨⟨?_, once⟩, ⟨new, fun r member => (others r member).1⟩, held, bound⟩
      intro again
      obtain ⟨r, member, same⟩ := List.mem_map.mp again
      exact (others r member).2 same
    · rintro ⟨⟨first, once⟩, ⟨new, others⟩, held, bound⟩
      refine ⟨new, held, once, fun r member => ⟨others r member, fun same => ?_⟩, bound⟩
      exact first (List.mem_map.mpr ⟨r, member, same⟩)

/-- `__post_init__`. -/
def create (requirements : List ReviewerReceiptRequirement) (receipts : List InitialFindingReceipt)
    (isSealed : Bool) : Except Failure InitialFindingReceiptLedger :=
  if required : requirements ≠ [] then
    if distinct : (requirements.map reviewerOf).Nodup then
      match checked : checkReceipts requirements [] receipts with
      | .error e => .error e
      | .ok () =>
        if complete : isSealed = true →
            ∀ q ∈ requirements, ∃ r ∈ receipts, r.reviewerId = q.reviewerId then
          .ok {
            requiredSessions := sortedBy reviewerOf requirements
            receipts := sortedBy receiptReviewer receipts
            isSealed
            required := fun empty => required ((empty ▸ perm_sortedBy).nil_eq.symm)
            requiredSorted := sortedBy_strict distinct
            receiptsSorted := sortedBy_strict ((checkReceipts_ok distinct).mp checked).1
            bound := fun r member =>
              mem_sortedBy.mpr (((checkReceipts_ok distinct).mp checked).2.2 r (mem_sortedBy.mp member))
            complete := fun on q member => by
              obtain ⟨r, held, same⟩ := complete on q (mem_sortedBy.mp member)
              exact ⟨r, mem_sortedBy.mpr held, same⟩ }
        else .error ⟨.receiptsIncomplete, "a sealed ledger must contain every required receipt"⟩
    else .error ⟨.requirementInvalid, "required reviewer identities must be unique"⟩
  else .error ⟨.requirementInvalid, "at least one required reviewer is needed"⟩

def requiredReviewerIds (l : InitialFindingReceiptLedger) : List String := l.requiredSessions.map reviewerOf

def receivedReviewerIds (l : InitialFindingReceiptLedger) : List String := l.receipts.map receiptReviewer

def missingReviewerIds (l : InitialFindingReceiptLedger) : List String :=
  l.requiredReviewerIds.filter (· ∉ l.receivedReviewerIds)

def readyForCrossReview (l : InitialFindingReceiptLedger) : Bool := l.missingReviewerIds = []

section Digests
variable [Sha256]

/-- `append`. -/
def append (l : InitialFindingReceiptLedger) (receipt : InitialFindingReceipt) :
    Except Failure InitialFindingReceiptLedger := do
  ensure (l.isSealed = false) ⟨.ledgerSealed, "sealed ledger cannot accept another receipt"⟩
  validateBinding l.requiredSessions receipt
  match l.receipts.find? (receiptReviewer · = receiptReviewer receipt) with
  | some existing =>
    if existing.receiptDigest = receipt.receiptDigest then return l
    else .error ⟨.duplicateConflict, s!"conflicting receipt for {receipt.reviewerId.value}"⟩
  | none => create l.requiredSessions (l.receipts ++ [receipt]) l.isSealed

def texts (items : List String) : Json := .arr (items.map .str)

/-- `_manifest_payload`. -/
def manifestPayload (l : InitialFindingReceiptLedger) : Json :=
  .obj [("protocol", .str InitialFindingReceipt.initialFindingReceiptProtocol),
    ("required_sessions", .arr (l.requiredSessions.map (·.toDict))),
    ("receipts", .arr (l.receipts.map (·.toDict))),
    ("missing_reviewer_ids", texts l.missingReviewerIds),
    ("ready_for_cross_review", .bool l.readyForCrossReview),
    ("sealed", .bool l.isSealed)]

def manifestDigest (l : InitialFindingReceiptLedger) : Digest := canonicalDigest l.manifestPayload

/-- The ledger after a series of calls of `append`; a call that raises leaves it. -/
def appendAll (l : InitialFindingReceiptLedger) (receipts : List InitialFindingReceipt) :
    InitialFindingReceiptLedger :=
  receipts.foldl (fun l receipt => (l.append receipt).toOption.getD l) l

end Digests

end InitialFindingReceiptLedger

end DwSuperApps.Source.FindingReceipts
