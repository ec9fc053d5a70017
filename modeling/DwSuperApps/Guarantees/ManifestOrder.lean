import DwSuperApps.Guarantees.ManifestLedger

/-!
# Manifests under every history of completions and retries

The serialized form of a settled manifest reads back to it, and along a run whose
stale evidence arrives in key order every operation that passes its lifecycle and
identity checks returns a manifest. Children listed out of order, or evidence
that arrives out of order, meet the digest check instead.
-/
namespace DwSuperApps.Guarantees.ManifestOrder

open DwSuperApps.Lib DwSuperApps.Lib.Checked DwSuperApps.Lib.Runs
open DwSuperApps.Source.Fanout DwSuperApps.Source.Manifest
open DwSuperApps.Source.Manifest.FanoutManifest
open DwSuperApps.Guarantees.ManifestLedger
open DwSuperApps.Source.Manifest.FanoutManifestChild (childLe keyLe)

/-! ## Round trip -/

section Readers

@[simp] theorem readIdent_value {maxBytes : Nat} (name : String) (i : Ident maxBytes) :
    readIdent maxBytes name (.str i.value) = .ok i := by
  simp [readIdent, readString]

@[simp] theorem readText_value {maxBytes : Nat} (name : String) (t : BoundedText maxBytes) :
    readText maxBytes name (.str t.value) = .ok t := by
  simp [readText, readString, boundedText, Except.mapError]

@[simp] theorem readDigest_value (name : String) (d : Digest) :
    readDigest name (.str d.value) = .ok d := by
  simp [readDigest, readString, digestText, Except.mapError]

@[simp] theorem readLifecycle_value (name : String) (s : ChildLifecycle) :
    readLifecycle name (.str s.value) = .ok s := by
  simp [readLifecycle]

theorem readNullable_ofOption {α : Type} {read : Json → Except Failure α} {text : α → String}
    (reads : ∀ a, read (.str (text a)) = .ok a) (value : Option α) :
    readNullable read (.ofOption (value.map text)) = .ok value := by
  cases value with
  | none => rfl
  | some a => simp [readNullable, Json.ofOption, reads, Except.map]

theorem readNullable_intOrNull (name : String) (value : Option Nat) :
    readNullable (readNonNegative name) (intOrNull value) = .ok value := by
  cases value with
  | none => rfl
  | some n => simp [readNullable, intOrNull, readNonNegative, Except.map]

end Readers

/-- A record without a plan version has no binding at all. -/
theorem unbound_fields {c : FanoutManifestChild} (unbound : c.planVersion = none) :
    c.planDigest = none ∧ c.parentAttemptId = none ∧ c.leaseGeneration = none := by
  have checked := (record_sound c).2.2
  unfold ChildRecord.bindingProblem at checked
  split at checked
  · cases checked
  · next absent =>
    simpa [unbound, and_assoc] using absent

/-- What `from_dict` needs to find in the members to rebuild a record. -/
structure ChildMembers (members : List (String × Json)) (c : FanoutManifestChild) : Prop where
  names : checkFields "child" FanoutManifestChild.requiredFields
    FanoutManifestChild.optionalFields members = .ok ()
  childId : field members "child_id" = .str c.childId.value
  lens : field members "lens" = .str c.lens.value
  agentInstance : field members "agent_instance" = .str c.agentInstance.value
  attemptId : field members "attempt_id" = .str c.attemptId.value
  status : field members "status" = .str c.status.value
  timeoutSeconds : field members "timeout_seconds" = .int c.timeoutSeconds
  childContractDigest : field members "child_contract_digest" = .str c.childContractDigest.value
  sourceDigest : field members "source_digest" = .str c.sourceDigest.value
  standardsProfileDigest :
    field members "standards_profile_digest" = .str c.standardsProfileDigest.value
  resultRef : field members "result_ref" = .ofOption (c.resultRef.map (·.value))
  resultDigest : field members "result_digest" = .ofOption (c.resultDigest.map (·.value))
  planVersion : field members "plan_version" = .ofOption (c.planVersion.map (·.value))
  planDigest : field members "plan_digest" = .ofOption (c.planDigest.map (·.value))
  parentAttemptId : field members "parent_attempt_id" = .ofOption (c.parentAttemptId.map (·.value))
  leaseGeneration : field members "lease_generation" = intOrNull c.leaseGeneration

theorem ChildMembers.fromDict {members : List (String × Json)} {c : FanoutManifestChild}
    (h : ChildMembers members c) : FanoutManifestChild.fromDict (.obj members) = .ok c := by
  obtain ⟨timed, result, _⟩ := record_sound c
  have timeout : readPositive "timeout_seconds" (.int c.timeoutSeconds) = .ok c.timeoutSeconds := by
    have positive : 0 < c.timeoutSeconds := Nat.pos_of_ne_zero timed
    simp [readPositive, positive]
  unfold FanoutManifestChild.fromDict
  simp only [readObject, ok_bind, h.names, h.childId, h.lens, h.agentInstance, h.attemptId, h.status,
    h.timeoutSeconds, h.childContractDigest, h.sourceDigest, h.standardsProfileDigest, h.resultRef,
    h.resultDigest, h.planVersion, h.planDigest, h.parentAttemptId, h.leaseGeneration,
    readIdent_value, readLifecycle_value, readDigest_value, timeout, result, raise,
    readNullable_ofOption (readText_value "result_ref"),
    readNullable_ofOption (readDigest_value "result_digest"),
    readNullable_ofOption (readIdent_value "plan_version"),
    readNullable_ofOption (readDigest_value "plan_digest"),
    readNullable_ofOption (readIdent_value "parent_attempt_id"), readNullable_intOrNull]
  exact ofRecord_of_sound c.checked

theorem child_roundtrip (c : FanoutManifestChild) :
    FanoutManifestChild.fromDict c.toDict = .ok c := by
  unfold FanoutManifestChild.toDict FanoutManifestChild.hasParentBinding
  cases version : c.planVersion with
  | none =>
    obtain ⟨digest, attempt, lease⟩ := unbound_fields version
    apply ChildMembers.fromDict
    constructor
    case planVersion => rw [version]; rfl
    case planDigest => rw [digest]; rfl
    case parentAttemptId => rw [attempt]; rfl
    case leaseGeneration => rw [lease]; rfl
    all_goals rfl
  | some planVersion =>
    apply ChildMembers.fromDict
    constructor
    case planVersion => rw [version]; rfl
    all_goals rfl

/-- What `from_dict` needs to find in the members to rebuild the parent identity. -/
structure ParentMembers (members : List (String × Json)) (p : ManifestParentIdentity) : Prop where
  names : checkFields "parent" ManifestParentIdentity.requiredFields ["fencing_token"] members = .ok ()
  runId : field members "run_id" = .str p.runId.value
  nodeId : field members "node_id" = .str p.nodeId.value
  planVersion : field members "plan_version" = .str p.planVersion.value
  contractId : field members "contract_id" = .str p.contractId.value
  contractDigest : field members "contract_digest" = .str p.contractDigest.value
  boundaryDigest : field members "boundary_digest" = .str p.boundaryDigest.value
  sourceManifestRef : field members "source_manifest_ref" = .str p.sourceManifestRef.value
  sourceDigest : field members "source_digest" = .str p.sourceDigest.value
  standardsProfileRef : field members "standards_profile_ref" = .str p.standardsProfileRef.value
  standardsProfileDigest :
    field members "standards_profile_digest" = .str p.standardsProfileDigest.value
  attemptId : field members "attempt_id" = .str p.attemptId.value
  leaseGeneration : field members "lease_generation" = intOrNull p.leaseGeneration
  fencingToken : field members "fencing_token" = .ofOption (p.fencingToken.map (·.value))

theorem ParentMembers.fromDict {members : List (String × Json)} {p : ManifestParentIdentity}
    (h : ParentMembers members p) : ManifestParentIdentity.fromDict (.obj members) = .ok p := by
  unfold ManifestParentIdentity.fromDict
  simp only [readObject, ok_bind, h.names, h.runId, h.nodeId, h.planVersion, h.contractId,
    h.contractDigest, h.boundaryDigest, h.sourceManifestRef, h.sourceDigest, h.standardsProfileRef,
    h.standardsProfileDigest, h.attemptId, h.leaseGeneration, h.fencingToken, readIdent_value,
    readText_value, readDigest_value, readNullable_intOrNull,
    readNullable_ofOption (readText_value "fencing_token")]
  rfl

theorem parent_roundtrip (p : ManifestParentIdentity) :
    ManifestParentIdentity.fromDict p.toDict = .ok p := by
  unfold ManifestParentIdentity.toDict
  cases token : p.fencingToken with
  | none =>
    apply ParentMembers.fromDict
    constructor
    case fencingToken => rw [token]; rfl
    all_goals rfl
  | some value =>
    apply ParentMembers.fromDict
    constructor
    case fencingToken => rw [token]; rfl
    all_goals rfl

/-- The only semantics that passes its own validation. -/
theorem validate_fixed {j : JoinSemantics} (valid : j.validate = .ok j) :
    j = JoinSemantics.forPolicy .allRequired := by
  unfold JoinSemantics.validate at valid
  obtain ⟨_, states, valid⟩ := bind_ok.mp valid
  obtain ⟨_, _, valid⟩ := bind_ok.mp valid
  obtain ⟨_, partialResult, valid⟩ := bind_ok.mp valid
  obtain ⟨_, rest, _⟩ := bind_ok.mp valid
  have accepted := ensure_ok.mp states
  have kept := ensure_ok.mp partialResult
  have blocked := ensure_ok.mp rest
  simp only [JoinSemantics.dispositions, List.drop_succ_cons, List.drop_zero, List.forall_mem_cons,
    List.not_mem_nil, false_imp_iff, implies_true, and_true] at blocked
  obtain ⟨failure, timeout, cancellation, stale⟩ := blocked
  cases j with
  | mk policy acceptable partialPolicy failurePolicy timeoutPolicy cancellationPolicy stalePolicy =>
    cases policy
    simp only at accepted kept failure timeout cancellation stale
    subst accepted kept failure timeout cancellation stale
    rfl

theorem semantics_roundtrip {j : JoinSemantics} (valid : j.validate = .ok j) :
    readJoinSemantics j.toDict = .ok j := by
  rw [validate_fixed valid]
  rfl

theorem children_roundtrip (children : List FanoutManifestChild) :
    (children.map FanoutManifestChild.toDict).mapM FanoutManifestChild.fromDict = .ok children := by
  rw [mapM_ok, List.forall₂_map_left_iff, List.forall₂_same]
  exact fun c _ => child_roundtrip c

section Manifest
variable [Sha256] {m : FanoutManifest}

/-- The constructor accepts a settled snapshot as it stands. -/
theorem make_settled (h : Settled m) :
    make m.manifestId m.manifestVersion m.parent m.joinSemantics m.children m.manifestDigest
      m.staleChildren = .ok m := by
  have digest := h.digest
  rw [payload] at digest
  rw [make, h.records, ok_bind, h.sorted.insertionSort_eq, h.staleSorted.insertionSort_eq]
  dsimp only
  generalize canonicalDigest (.obj (payloadOf m.manifestId m.manifestVersion m.parent
    m.joinSemantics m.children m.staleChildren)) = expected at digest
  subst digest
  rw [ensure_of rfl]
  rfl

/-- What `from_dict` needs to find in the members to rebuild a manifest. -/
structure ManifestMembers (members : List (String × Json)) (m : FanoutManifest) : Prop where
  names : checkFields "manifest" requiredFields ["stale_children"] members = .ok ()
  protocol : field members "protocol" = .str protocolName
  children : field members "children" = .arr (m.children.map FanoutManifestChild.toDict)
  staleChildren : field members "stale_children" (.arr []) =
    .arr (m.staleChildren.map FanoutManifestChild.toDict)
  joinSemantics : field members "join_semantics" = m.joinSemantics.toDict
  parent : field members "parent" = m.parent.toDict
  manifestId : field members "manifest_id" = .str m.manifestId.value
  manifestVersion : field members "manifest_version" = .int m.manifestVersion
  manifestDigest : field members "manifest_digest" = .str m.manifestDigest.value

theorem ManifestMembers.fromDict {members : List (String × Json)}
    (found : ManifestMembers members m) (h : Settled m) :
    FanoutManifest.fromDict (.obj members) = .ok m := by
  unfold FanoutManifest.fromDict
  simp only [readObject, ok_bind, found.names, found.protocol, found.children, found.staleChildren,
    found.joinSemantics, found.parent, found.manifestId, found.manifestVersion, found.manifestDigest,
    ensure_of, readArray, children_roundtrip, semantics_roundtrip h.semantics, parent_roundtrip,
    readIdent_value, readVersion, readDigest_value]
  exact make_settled h

/-- The serialized form of a settled manifest reads back to it. -/
theorem fromDict_toDict (h : Settled m) : fromDict m.toDict = .ok m := by
  unfold toDict payload payloadOf
  by_cases stale : m.staleChildren = []
  · rw [stale]
    refine ManifestMembers.fromDict ?_ h
    constructor
    case staleChildren => rw [stale]; rfl
    all_goals rfl
  · rw [if_pos stale]
    refine ManifestMembers.fromDict ?_ h
    constructor
    all_goals rfl

end Manifest

/-! ## A fan-out of two children -/

section Review

def reviewParent : ParentContract where
  runId := ⟨"run", by decide, by decide⟩
  nodeId := ⟨"review", by decide, by decide⟩
  contractId := ⟨"contract", by decide, by decide⟩
  contractDigest := Digest.ofNat 1
  planVersion := ⟨"v1", by decide, by decide⟩
  boundaryDigest := Digest.ofNat 2
  maxChildren := 2
  maxParallel := 2
  sourceDigest := Digest.ofNat 3
  sourceManifestRef := ⟨"source", by decide, by decide⟩
  standardsProfileRef := ⟨"profile", by decide, by decide, by decide, by decide⟩
  standardsProfileDigest := Digest.ofNat 4

def reviewChild (childId lens : Ident 128) : ChildContract where
  childId := childId
  parentContractId := reviewParent.contractId
  parentContractDigest := reviewParent.contractDigest
  runId := reviewParent.runId
  nodeId := reviewParent.nodeId
  planVersion := reviewParent.planVersion
  lens := lens
  parentBoundaryDigest := reviewParent.boundaryDigest
  standardsProfileRef := reviewParent.standardsProfileRef
  standardsProfileDigest := reviewParent.standardsProfileDigest
  sourceManifestRef := reviewParent.sourceManifestRef
  sourceDigest := reviewParent.sourceDigest
  agentInstance := ⟨"agent", by decide, by decide⟩
  contractDigest := Digest.ofNat 5

def api : ChildContract := reviewChild ⟨"api", by decide, by decide⟩ ⟨"api", by decide, by decide⟩
def web : ChildContract := reviewChild ⟨"web", by decide, by decide⟩ ⟨"web", by decide, by decide⟩

def reviewAttempt : Ident 256 := ⟨"attempt-1", by decide, by decide⟩

def reviewOptions : PlanOptions := { manifestId := some "manifest" }

theorem reviewPlan_made [Sha256] {children : List ChildContract}
    (listed : children = [api, web] ∨ children = [web, api]) :
    ∃ plan, FanoutPlan.fromParent reviewParent children = .ok plan ∧ plan.children = children ∧
      plan.runId = reviewParent.runId ∧ plan.nodeId = reviewParent.nodeId ∧
      plan.planVersion = reviewParent.planVersion := by
  have belong : ∀ child ∈ children, assertChildBelongs reviewParent child = .ok () := by
    rcases listed with rfl | rfl <;> simp [assertChildBelongs_ok, api, web, reviewChild]
  have unique : (children.map (·.childId)).Nodup := by
    rcases listed with rfl | rfl <;> decide
  have two : children.length = 2 := by
    rcases listed with rfl | rfl <;> rfl
  have nonempty : children ≠ [] := by
    rintro rfl
    cases two
  have room : children.length ≤ reviewParent.maxChildren := two.le
  exact fromParent_parallel nonempty (by omega) room belong unique (by decide)

theorem reviewParts_checked {plan : FanoutPlan} (valid : ValidPlan plan)
    (listed : plan.children = [api, web] ∨ plan.children = [web, api]) :
    ∃ id parent records, planParts plan reviewAttempt.value reviewOptions = .ok (id, parent, records) := by
  have ofApi := identText_value "attempt_id" (⟨"attempt-1:api", by decide, by decide⟩ : Ident 256)
  have ofWeb := identText_value "attempt_id" (⟨"attempt-1:web", by decide, by decide⟩ : Ident 256)
  have named := identText_value "manifest_id" (⟨"manifest", by decide, by decide⟩ : Ident 256)
  have attempts : ∀ child ∈ plan.children, ∃ a : Ident 256, identText 256 "attempt_id"
      s!"{reviewAttempt.value}:{child.childId.value}" = .ok a := by
    intro child member
    have either : child = api ∨ child = web := by
      rcases listed with same | same <;> rw [same] at member <;> simp at member
      · exact member
      · exact member.symm
    rcases either with rfl | rfl
    · exact ⟨_, ofApi⟩
    · exact ⟨_, ofWeb⟩
  obtain ⟨parent, records, parts, _⟩ := @planParts_ok plan valid reviewAttempt reviewOptions none _
    rfl (by decide) (by simp [reviewOptions]) attempts (.inl rfl) named
  exact ⟨_, parent, records, parts⟩

/-- `children[0].child_id` of a payload. -/
def firstChildId : Json → Option Json
  | .obj members => match Json.member members "children" with
    | some (.arr (.obj child :: _)) => Json.member child "child_id"
    | _ => none
  | _ => none

theorem firstChildId_payload {id : Ident 256} {version : Int} {parent : ManifestParentIdentity}
    {semantics : JoinSemantics} {first : FanoutManifestChild} {rest stale : List FanoutManifestChild} :
    firstChildId (Json.sortKeys (.obj (payloadOf id version parent semantics (first :: rest) stale))) =
      some (.str first.childId.value) := by
  have listed : Json.member (payloadOf id version parent semantics (first :: rest) stale) "children" =
      some (.arr (first.toDict :: rest.map FanoutManifestChild.toDict)) := rfl
  rw [Json.sortKeys, firstChildId, Json.member_sortMembers, listed]
  simp only [Option.map_some, Json.sortKeys, Json.sortItems, FanoutManifestChild.toDict,
    Json.member_sortMembers]
  rfl

/-- A digest that tells whether `web` is listed first. -/
@[reducible] def firstChildHash : Sha256 where
  bits value := if firstChildId value = some (.str "web") then 1 else 0

theorem firstChildHash_payload {id : Ident 256} {version : Int} {parent : ManifestParentIdentity}
    {semantics : JoinSemantics} {first : FanoutManifestChild} {rest stale : List FanoutManifestChild} :
    @canonicalDigest firstChildHash
        (.obj (payloadOf id version parent semantics (first :: rest) stale)) =
      Digest.ofNat (if first.childId.value = "web" then 1 else 0) := by
  unfold canonicalDigest
  change Digest.ofNat (if firstChildId _ = _ then 1 else 0) = _
  rw [firstChildId_payload]
  simp only [Option.some.injEq, Json.str.injEq]

/-- The digest of the records as listed is not the digest of the sorted ones. -/
theorem reversed_refused {plan : FanoutPlan} (valid : ValidPlan plan)
    (children : plan.children = [web, api]) {attemptId : String} {options : PlanOptions}
    {id : Ident 256} {parent : ManifestParentIdentity} {records : List FanoutManifestChild}
    (parts : planParts plan attemptId options = .ok (id, parent, records)) :
    @fromPlan firstChildHash plan attemptId options =
      .error ⟨.digestMismatch, "manifest_digest does not match canonical manifest bytes"⟩ := by
  obtain ⟨planned, version⟩ := planParts_spec parts
  have checks := planned_checks valid planned version
  rw [children] at planned
  cases planned with
  | cons ofWeb others =>
    cases others with
    | cons ofApi none =>
      cases none
      rename_i first second
      have order : [first, second].insertionSort childLe = [second, first] := by
        have apart : ¬ childLe first second := by
          rw [childLe, ofWeb.childId, ofApi.childId]
          decide
        simp [List.insertionSort, List.orderedInsert, apart]
      unfold fromPlan
      rw [parts]
      refine @build_mismatch firstChildHash _ _ _ _ _ _ checks ?_
      rw [order, firstChildHash_payload, firstChildHash_payload, ofWeb.childId, ofApi.childId]
      decide

end Review

/-! ## Runs -/

section Runs

/-- An operation whose evidence arrives in order, on a manifest with versions left. -/
def Admitted (m : FanoutManifest) (operation : Operation) : Prop :=
  InOrder m operation ∧ m.manifestVersion + 3 ≤ maxManifestVersion

instance (m : FanoutManifest) (operation : Operation) : Decidable (Admitted m operation) := by
  unfold Admitted
  infer_instance

variable [Sha256]

/-- A refused operation leaves the manifest as it is. -/
def step (m : FanoutManifest) (operation : Operation) : FanoutManifest :=
  match operation.apply m with
  | .ok m' => m'
  | .error _ => m

variable {m : FanoutManifest}

theorem step_settled (h : Settled m) {operation : Operation} (admitted : Admitted m operation) :
    Settled (step m operation) := by
  have follows := apply_follows h operation admitted.1
  unfold step
  generalize (ledgerOf m).apply operation = outcome at follows
  generalize operation.apply m = made at follows
  cases follows with
  | recorded settled _ _ => exact settled
  | refused failure => exact h
  | full range => exact h

theorem run_settled (h : Settled m) {operations : List Operation}
    (admitted : Along step Admitted m operations) : Settled (run step m operations) := by
  refine @run_invariant _ _ step Admitted Settled ?_ m operations h admitted
  exact fun _ _ settled ok => step_settled settled ok

/-- An admitted operation that passes its lifecycle and identity checks returns the
manifest of the records they leave. -/
theorem admitted_returns (h : Settled m) {operation : Operation} (admitted : Admitted m operation)
    {l : Ledger} (checked : (ledgerOf m).apply operation = .ok l) :
    ∃ m', operation.apply m = .ok m' ∧ ledgerOf m' = l ∧ Settled m' := by
  have follows := apply_follows h operation admitted.1
  rw [checked] at follows
  obtain ⟨m', made, same, settled, _⟩ := follows.returned admitted.2
  exact ⟨m', made, same, settled⟩

/-- A plan is snapshotted iff the digest of its records as listed is the digest of
the records by child id, and from there every admitted operation that passes its
checks returns a manifest; each manifest reads back from its serialized form. -/
theorem admitted_history_recorded {parent : ParentContract} {children : List ChildContract}
    {mode : FanoutMode} {maxParallel : Option Nat} {stages : Option (List (List String))}
    {joinPolicy : JoinPolicy} {plan : FanoutPlan}
    (planned : FanoutPlan.fromParent parent children mode maxParallel stages joinPolicy = .ok plan)
    {attemptId : String} {options : PlanOptions} {id : Ident 256} {identity : ManifestParentIdentity}
    {records : List FanoutManifestChild}
    (checked : planParts plan attemptId options = .ok (id, identity, records)) :
    ((∃ m, fromPlan plan attemptId options = .ok m) ↔
      canonicalDigest (.obj (payloadOf id 1 identity plan.joinSemantics records [])) =
        canonicalDigest (.obj (payloadOf id 1 identity plan.joinSemantics
          (records.insertionSort childLe) []))) ∧
    ((plan.children.Pairwise fun a b => a.childId.value ≤ b.childId.value) →
      ∃ m, fromPlan plan attemptId options = .ok m) ∧
    ∀ m, fromPlan plan attemptId options = .ok m → ∀ operations, Along step Admitted m operations →
      fromDict (run step m operations).toDict = .ok (run step m operations) ∧
      ∀ operation, Admitted (run step m operations) operation →
        ∀ l, (ledgerOf (run step m operations)).apply operation = .ok l →
          ∃ m', operation.apply (run step m operations) = .ok m' ∧ ledgerOf m' = l ∧
            fromDict m'.toDict = .ok m' := by
  have valid := fromParent_valid planned
  refine ⟨fromPlan_ok_iff valid checked, ?_, ?_⟩
  · intro listed
    obtain ⟨m, made, _⟩ := fromPlan_of_listed valid listed checked
    exact ⟨m, made⟩
  · intro m made operations admitted
    have settled := run_settled (fromPlan_settled made) admitted
    refine ⟨fromDict_toDict settled, ?_⟩
    intro operation next l passes
    obtain ⟨m', returned, same, settled'⟩ := admitted_returns settled next passes
    exact ⟨m', returned, same, fromDict_toDict settled'⟩

end Runs

/-- The review plan in child order, with a late report on its first manifest. -/
theorem admitted_history_recorded_review :
    let late : ChildCompletion :=
      { childId := api.childId, childContractDigest := api.contractDigest, status := .stale
        resultRef := ⟨"late", by decide, by decide, by decide, by decide⟩
        resultDigest := Digest.ofNat 6, evidenceOnly := true }
    ∃ plan m, @FanoutPlan.fromParent firstChildHash reviewParent [api, web] .parallel none none
        .allRequired = .ok plan ∧
      @fromPlan firstChildHash plan reviewAttempt.value reviewOptions = .ok m ∧
      (let reached := run (@step firstChildHash) m [.completion late]
      @fromDict firstChildHash reached.toDict = .ok reached) ∧
      ∃ m', @Operation.apply firstChildHash m (.transition api.childId.value .dispatched none none) =
          .ok m' ∧ @fromDict firstChildHash m'.toDict = .ok m' := by
  intro late
  obtain ⟨plan, made, children, _⟩ := @reviewPlan_made firstChildHash _ (.inl rfl)
  obtain ⟨id, parent, records, parts⟩ := reviewParts_checked
    (@fromParent_valid firstChildHash _ _ _ _ _ _ _ made) (.inl children)
  obtain ⟨_, listed, history⟩ := @admitted_history_recorded firstChildHash _ _ _ _ _ _ _ made _ _ _ _ _ parts
  have order : plan.children.Pairwise fun a b => a.childId.value ≤ b.childId.value := by
    rw [children]
    decide
  obtain ⟨m, first⟩ := listed order
  obtain ⟨m', first', settled, ledger, version, _⟩ :=
    @fromPlan_of_listed firstChildHash _ _ _ (@fromParent_valid firstChildHash _ _ _ _ _ _ _ made)
      order _ _ _ parts
  cases Except.ok.inj (first.symm.trans first')
  -- the record of `api` is planned and may be dispatched
  obtain ⟨record, member, status, name⟩ : ∃ record ∈ m.children, record.status = .planned ∧
      record.childId.value = api.childId.value := by
    have planned := (planParts_spec parts).1
    rw [children] at planned
    have held : m.children = records := congrArg Ledger.children ledger
    cases planned with
    | cons ofApi _ => exact ⟨_, by rw [held]; simp, ofApi.status, ofApi.childId⟩
  obtain ⟨updated, update, _⟩ := transitionUpdate_open api.childId.value
    (show ChildLifecycle.dispatched ∈ record.status.transitions by rw [status]; decide) rfl
  have found : childIn m.children api.childId.value = .ok record :=
    name ▸ childIn_of_mem (@Settled.unique firstChildHash m settled) member
  have passes := Ledger.recordTransition_of (show childIn (ledgerOf m).children _ = _ from found) update
  have room : m.manifestVersion + 3 ≤ maxManifestVersion := by
    rw [version]
    decide
  have admitted : Admitted m (.completion late) := by
    refine ⟨fun _ _ _ _ => .inr ?_, room⟩
    have empty : m.staleChildren = [] := congrArg Ledger.staleChildren ledger
    simp [empty]
  obtain ⟨roundtrip, _⟩ := history m first [.completion late] ⟨admitted, trivial⟩
  obtain ⟨_, next⟩ := history m first [] trivial
  obtain ⟨m', applied, _, reread⟩ :=
    next (.transition api.childId.value .dispatched none none) ⟨trivial, room⟩ _ passes
  exact ⟨plan, m, made, first, roundtrip, m', applied, reread⟩

/-- The plan whose second child comes first is valid and its records check, and yet
it has no manifest. -/
theorem reversed_children_refused :
    ∃ plan id parent records,
      @FanoutPlan.fromParent firstChildHash reviewParent [web, api] .parallel none none .allRequired =
        .ok plan ∧
      planParts plan reviewAttempt.value reviewOptions = .ok (id, parent, records) ∧
      @fromPlan firstChildHash plan reviewAttempt.value reviewOptions =
        .error ⟨.digestMismatch, "manifest_digest does not match canonical manifest bytes"⟩ := by
  obtain ⟨plan, made, children, _⟩ := @reviewPlan_made firstChildHash _ (.inr rfl)
  have valid := @fromParent_valid firstChildHash _ _ _ _ _ _ _ made
  obtain ⟨id, parent, records, parts⟩ := reviewParts_checked valid (.inr children)
  exact ⟨plan, id, parent, records, made, parts, reversed_refused valid children parts⟩

end DwSuperApps.Guarantees.ManifestOrder
