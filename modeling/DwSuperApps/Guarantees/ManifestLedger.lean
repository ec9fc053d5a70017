import Mathlib.Data.List.Dedup
import DwSuperApps.Lib.Keyed
import DwSuperApps.Lib.Runs
import DwSuperApps.Source.Manifest

/-!
# The fan-out manifest against a ledger without digests

`Ledger` is what a manifest is for: the parent generation, one record a child and
the stale evidence, changed by the lifecycle and identity checks alone. The
manifest adds a version and a digest to it. The digest is taken over the records
in the order the operation lists them and checked over the sorted ones, so the
manifest follows the ledger as long as the listed order is the sorted one.
-/
namespace DwSuperApps.Guarantees.ManifestLedger

open DwSuperApps.Lib DwSuperApps.Lib.Checked DwSuperApps.Lib.Runs
open DwSuperApps.Source.Fanout DwSuperApps.Source.Manifest
open DwSuperApps.Source.Manifest.FanoutManifest
open DwSuperApps.Source.Manifest.FanoutManifestChild (childLe keyLe)

/-! ## Snapshots over records in order -/

section Orders

instance : IsTrans FanoutManifestChild childLe :=
  ⟨fun _ _ _ first second => le_trans (α := String) first second⟩

instance : Std.Total (α := FanoutManifestChild) childLe :=
  ⟨fun a b => le_total a.childId.value b.childId.value⟩

theorem pairLe_trans {a b c : String × String} (first : pairLe a b) (second : pairLe b c) :
    pairLe a c := by
  rcases first with less | ⟨same, less⟩
  · rcases second with less' | ⟨same', _⟩
    · exact .inl (lt_trans less less')
    · exact .inl (same' ▸ less)
  · rcases second with less' | ⟨same', less'⟩
    · exact .inl (same ▸ less')
    · exact .inr ⟨same.trans same', le_trans less less'⟩

theorem pairLe_total (a b : String × String) : pairLe a b ∨ pairLe b a := by
  rcases lt_trichotomy a.1 b.1 with less | same | more
  · exact .inl (.inl less)
  · rcases le_total a.2 b.2 with less | more
    · exact .inl (.inr ⟨same, less⟩)
    · exact .inr (.inr ⟨same.symm, more⟩)
  · exact .inr (.inl more)

instance : IsTrans FanoutManifestChild keyLe := ⟨fun _ _ _ => pairLe_trans⟩

instance : Std.Total (α := FanoutManifestChild) keyLe := ⟨fun a b => pairLe_total a.key b.key⟩

theorem checkRecords_sorted {version : Int} {parent : ManifestParentIdentity}
    {children stale : List FanoutManifestChild}
    (records : checkRecords version parent children stale = .ok ()) :
    checkRecords version parent (children.insertionSort childLe) (stale.insertionSort keyLe) =
      .ok () := by
  have nonempty : children.insertionSort childLe ≠ [] ↔ children ≠ [] := by
    rw [ne_eq, ne_eq, ← List.length_eq_zero_iff, List.length_insertionSort,
      List.length_eq_zero_iff]
  simpa only [checkRecords, (List.pairwise_insertionSort childLe children).insertionSort_eq,
    List.length_insertionSort, List.mem_insertionSort, nonempty, bind_ok, ensure_ok] using records

end Orders

section Snapshots
variable [Sha256]

/-- A snapshot as its constructor leaves it. -/
structure Settled (m : FanoutManifest) : Prop where
  records : checkRecords m.manifestVersion m.parent m.children m.staleChildren = .ok ()
  sorted : m.children.Pairwise childLe
  staleSorted : m.staleChildren.Pairwise keyLe
  digest : m.manifestDigest = canonicalDigest (.obj m.payload)
  semantics : m.joinSemantics.validate = .ok m.joinSemantics

/-- Whatever order it was given, the constructor leaves a settled snapshot. -/
theorem make_ok {id : Ident 256} {version : Int} {parent : ManifestParentIdentity}
    {semantics : JoinSemantics} {children stale : List FanoutManifestChild} {supplied : Digest}
    {m : FanoutManifest} (valid : semantics.validate = .ok semantics)
    (made : make id version parent semantics children supplied stale = .ok m) : Settled m := by
  unfold make at made
  obtain ⟨_, records, made⟩ := bind_ok.mp made
  obtain ⟨_, _, made⟩ := bind_ok.mp made
  cases made
  exact ⟨checkRecords_sorted records, List.pairwise_insertionSort childLe children,
    List.pairwise_insertionSort keyLe stale, rfl, valid⟩

/-- Listed in order, the records give the digest the constructor expects. -/
theorem build_of_sorted {id : Ident 256} {version : Int} {parent : ManifestParentIdentity}
    {semantics : JoinSemantics} {children stale : List FanoutManifestChild}
    (records : checkRecords version parent children stale = .ok ())
    (sorted : children.Pairwise childLe) (staleSorted : stale.Pairwise keyLe) :
    build id version parent semantics children stale = .ok
      { manifestId := id, manifestVersion := version, parent := parent, joinSemantics := semantics
        children := children, staleChildren := stale
        manifestDigest := canonicalDigest (.obj (payloadOf id version parent semantics children stale)) } := by
  rw [build, make, records, ok_bind, sorted.insertionSort_eq, staleSorted.insertionSort_eq]
  dsimp only
  rw [ensure_of rfl]
  rfl

/-- Records that pass their own checks make a snapshot iff the digest of the
listed payload is the digest of the sorted one. -/
theorem build_ok_iff {id : Ident 256} {version : Int} {parent : ManifestParentIdentity}
    {semantics : JoinSemantics} {children stale : List FanoutManifestChild}
    (records : checkRecords version parent children stale = .ok ()) :
    (∃ m, build id version parent semantics children stale = .ok m) ↔
      canonicalDigest (.obj (payloadOf id version parent semantics children stale)) =
        canonicalDigest (.obj (payloadOf id version parent semantics
          (children.insertionSort childLe) (stale.insertionSort keyLe))) := by
  rw [build, make, records, ok_bind]
  dsimp only
  constructor
  · rintro ⟨m, made⟩
    obtain ⟨_, same, _⟩ := bind_ok.mp made
    exact ensure_ok.mp same
  · intro same
    rw [ensure_of same]
    exact ⟨_, rfl⟩

/-- Otherwise the failure is the digest mismatch. -/
theorem build_mismatch {id : Ident 256} {version : Int} {parent : ManifestParentIdentity}
    {semantics : JoinSemantics} {children stale : List FanoutManifestChild}
    (records : checkRecords version parent children stale = .ok ())
    (apart : canonicalDigest (.obj (payloadOf id version parent semantics children stale)) ≠
        canonicalDigest (.obj (payloadOf id version parent semantics
          (children.insertionSort childLe) (stale.insertionSort keyLe)))) :
    build id version parent semantics children stale =
      .error ⟨.digestMismatch, "manifest_digest does not match canonical manifest bytes"⟩ := by
  rw [build, make, records, ok_bind]
  dsimp only
  rw [ensure_error apart]
  rfl

end Snapshots

/-! ## Records that keep their place -/

/-- What a changed record has to keep for the checks of the snapshot. -/
structure KeepsPlace (parent parent' : ManifestParentIdentity) (a b : FanoutManifestChild) : Prop where
  childId : b.childId = a.childId
  planDigest : b.planDigest = a.planDigest
  binding : checkBinding parent a = .ok () → checkBinding parent' b = .ok ()

section Places
variable {parent parent' : ManifestParentIdentity} {children children' : List FanoutManifestChild}

theorem keepsPlace_ids (kept : List.Forall₂ (KeepsPlace parent parent') children children') :
    children'.map (·.childId) = children.map (·.childId) := by
  induction kept with
  | nil => rfl
  | cons place _ ih => simp [place.childId, ih]

theorem keepsPlace_digests (kept : List.Forall₂ (KeepsPlace parent parent') children children') :
    children'.filterMap (·.planDigest) = children.filterMap (·.planDigest) := by
  induction kept with
  | nil => rfl
  | cons place _ ih => simp [List.filterMap_cons, place.planDigest, ih]

theorem keepsPlace_sorted (kept : List.Forall₂ (KeepsPlace parent parent') children children')
    (sorted : children.Pairwise childLe) : children'.Pairwise childLe := by
  have ids := keepsPlace_ids kept
  have byId (l : List FanoutManifestChild) :
      l.Pairwise childLe ↔ (l.map (·.childId)).Pairwise fun a b => a.value ≤ b.value := by
    rw [List.pairwise_map]
    rfl
  rw [byId, ids, ← byId]
  exact sorted

theorem keepsPlace_bound (kept : List.Forall₂ (KeepsPlace parent parent') children children')
    (bound : ∀ c ∈ children, checkBinding parent c = .ok ()) :
    ∀ c ∈ children', checkBinding parent' c = .ok () := by
  induction kept with
  | nil => simp
  | cons place _ ih =>
    intro c member
    rcases List.mem_cons.mp member with rfl | later
    · exact place.binding (bound _ (by simp))
    · exact ih (fun d held => bound d (by simp [held])) c later

/-- The checks of a snapshot over sorted records, one by one. -/
theorem checkRecords_ok_iff {version : Int} {stale : List FanoutManifestChild}
    (sorted : children.Pairwise childLe) :
    checkRecords version parent children stale = .ok () ↔
      (1 ≤ version ∧ version ≤ maxManifestVersion) ∧ children ≠ [] ∧
      children.length ≤ maxManifestChildren ∧ (children.map (·.childId)).Nodup ∧
      (∀ c ∈ children, checkBinding parent c = .ok ()) ∧
      ((children.filterMap (·.planDigest)).dedup.length ≤ 1) ∧
      ∀ record ∈ stale, record.status = .stale := by
  simp only [checkRecords, sorted.insertionSort_eq, bind_ok, ensure_ok, checkAll_ok,
    exists_const]

theorem checkRecords_kept {version version' : Int} {stale stale' : List FanoutManifestChild}
    (sorted : children.Pairwise childLe)
    (kept : List.Forall₂ (KeepsPlace parent parent') children children')
    (records : checkRecords version parent children stale = .ok ())
    (room : version ≤ version' ∧ version' ≤ maxManifestVersion)
    (allStale : ∀ record ∈ stale', record.status = .stale) :
    checkRecords version' parent' children' stale' = .ok () := by
  obtain ⟨range, nonempty, count, unique, bound, digests, _⟩ :=
    (checkRecords_ok_iff sorted).mp records
  rw [checkRecords_ok_iff (keepsPlace_sorted kept sorted), keepsPlace_ids kept,
    keepsPlace_digests kept]
  refine ⟨⟨le_trans range.1 room.1, room.2⟩, ?_, ?_, unique, keepsPlace_bound kept bound, digests,
    allStale⟩
  · rintro rfl
    cases kept
    exact nonempty rfl
  · rw [← kept.length_eq]
    exact count

end Places

/-! ## The ledger -/

structure Ledger where
  parent : ManifestParentIdentity
  children : List FanoutManifestChild
  staleChildren : List FanoutManifestChild
  deriving DecidableEq

def ledgerOf (m : FanoutManifest) : Ledger := ⟨m.parent, m.children, m.staleChildren⟩

inductive Operation where
  | transition (childId : String) (target : ChildLifecycle) (resultRef resultDigest : Option String)
  | completion (report : ChildCompletion)
  | retry (childId attemptId : String) (parentAttemptId : Option String)
      (leaseGeneration : Option Nat)

/-- The operation on a manifest. -/
def Operation.apply [Sha256] (m : FanoutManifest) : Operation → Except Failure FanoutManifest
  | .transition childId target resultRef resultDigest =>
    m.recordTransition childId target resultRef resultDigest
  | .completion report => m.recordCompletion report
  | .retry childId attemptId parentAttemptId leaseGeneration =>
    m.retryChild childId attemptId parentAttemptId leaseGeneration

namespace Ledger

def recordTransition (l : Ledger) (childId : String) (target : ChildLifecycle)
    (resultRef : Option String := none) (resultDigest : Option String := none) :
    Except Failure Ledger := do
  let current ← childIn l.children childId
  match ← transitionUpdate childId current target resultRef resultDigest with
  | none => return l
  | some updated => return { l with children := replaced l.children updated }

def appendStale (l : Ledger) (stale : FanoutManifestChild) : Except Failure Ledger := do
  match ← staleWith l.staleChildren stale with
  | none => return l
  | some records => return { l with staleChildren := records }

def recordCompletion (l : Ledger) (completion : ChildCompletion) : Except Failure Ledger := do
  let id := completion.childId.value
  let current ← childIn l.children id
  match ← classify current completion with
  | .stale record => l.appendStale record
  | .advancing =>
    let l ← (if current.status = .planned then l.recordTransition id .dispatched else .ok l)
    let dispatched ← childIn l.children id
    let l ← (if dispatched.status = .dispatched then l.recordTransition id .running else .ok l)
    l.recordTransition id completion.lifecycle (some completion.resultRef.value)
      (some completion.resultDigest.value)

def retryChild (l : Ledger) (childId attemptId : String) (parentAttemptId : Option String)
    (leaseGeneration : Option Nat) : Except Failure Ledger := do
  let (parent, children, stale) ← retryParts l.parent l.children l.staleChildren childId attemptId
    parentAttemptId leaseGeneration
  return ⟨parent, children, stale⟩

/-- The lifecycle and identity checks of an operation and the records it leaves. -/
def apply (l : Ledger) : Operation → Except Failure Ledger
  | .transition childId target resultRef resultDigest =>
    l.recordTransition childId target resultRef resultDigest
  | .completion report => l.recordCompletion report
  | .retry childId attemptId parentAttemptId leaseGeneration =>
    l.retryChild childId attemptId parentAttemptId leaseGeneration

end Ledger

/-! ## What the record functions keep -/

section Records

theorem ofRecord_ok {r : ChildRecord} {c : FanoutManifestChild}
    (made : FanoutManifestChild.ofRecord r = .ok c) : c.toChildRecord = r := by
  unfold FanoutManifestChild.ofRecord at made
  split at made
  · cases made
  · cases made
    rfl

/-- The fields a binding check reads, with the identity of the record. -/
structure SameBinding (a b : FanoutManifestChild) : Prop where
  childId : b.childId = a.childId
  planVersion : b.planVersion = a.planVersion
  planDigest : b.planDigest = a.planDigest
  parentAttemptId : b.parentAttemptId = a.parentAttemptId
  leaseGeneration : b.leaseGeneration = a.leaseGeneration

theorem SameBinding.keepsPlace {parent : ManifestParentIdentity} {a b : FanoutManifestChild}
    (same : SameBinding a b) : KeepsPlace parent parent a b where
  childId := same.childId
  planDigest := same.planDigest
  binding := by
    intro bound
    unfold checkBinding FanoutManifestChild.hasParentBinding at *
    rw [same.planVersion, same.parentAttemptId, same.leaseGeneration, same.childId]
    exact bound

theorem transitionUpdate_binding {childId : String} {current updated : FanoutManifestChild}
    {target : ChildLifecycle} {resultRef resultDigest : Option String}
    (made : transitionUpdate childId current target resultRef resultDigest = .ok (some updated)) :
    SameBinding current updated := by
  have ofUpdate (status : ChildLifecycle) (ref : Option (BoundedText 2048)) (digest : Option Digest)
      (kept : updated.toChildRecord = { current.toChildRecord with
        status := status, resultRef := ref, resultDigest := digest }) :
      SameBinding current updated := by
    constructor <;> rw [kept]
  unfold transitionUpdate at made
  obtain ⟨next, _, made⟩ := bind_ok.mp made
  split at made
  · -- an exact replay leaves no record
    obtain ⟨_, _, made⟩ := bind_ok.mp made
    obtain ⟨_, _, made⟩ := bind_ok.mp made
    obtain ⟨_, _, made⟩ := bind_ok.mp made
    cases made
  · split at made
    · split at made
      · obtain ⟨ref, _, made⟩ := bind_ok.mp made
        obtain ⟨digest, _, made⟩ := bind_ok.mp made
        obtain ⟨record, built, made⟩ := bind_ok.mp made
        cases made
        exact ofUpdate _ _ _ (ofRecord_ok built)
      · cases made
    · obtain ⟨_, _, made⟩ := bind_ok.mp made
      obtain ⟨record, built, made⟩ := bind_ok.mp made
      cases made
      exact ofUpdate _ _ _ (ofRecord_ok built)

theorem ofRecord_of_sound {r : ChildRecord} (sound : r.problem = none) :
    FanoutManifestChild.ofRecord r = .ok ⟨r, sound⟩ := by
  unfold FanoutManifestChild.ofRecord
  split
  · next failure found => simp [sound] at found
  · rfl

/-- The cross-field checks of a record, read off its constructor. -/
theorem record_sound (c : FanoutManifestChild) :
    c.timeoutSeconds ≠ 0 ∧ ChildRecord.resultProblem c.status c.resultRef c.resultDigest = none ∧
      c.bindingProblem = none := by
  have checked := c.checked
  unfold ChildRecord.problem at checked
  split at checked
  · cases checked
  · next timed =>
    cases result : ChildRecord.resultProblem c.status c.resultRef c.resultDigest with
    | some failure => simp [result] at checked
    | none =>
      rw [result] at checked
      exact ⟨timed, rfl, checked⟩

theorem moved_sound (c : FanoutManifestChild) {status : ChildLifecycle}
    {ref : Option (BoundedText 2048)} {digest : Option Digest}
    (evidence : ChildRecord.resultProblem status ref digest = none) :
    ChildRecord.problem { c.toChildRecord with
      status := status, resultRef := ref, resultDigest := digest } = none := by
  obtain ⟨timed, _, bound⟩ := record_sound c
  have binding : ChildRecord.bindingProblem { c.toChildRecord with
      status := status, resultRef := ref, resultDigest := digest } = none := bound
  unfold ChildRecord.problem
  rw [if_neg timed, evidence, binding]
  rfl

theorem transitions_apart {current target : ChildLifecycle} (allowed : target ∈ current.transitions) :
    transitionChildLifecycle current target = .ok target ∧ target ≠ current := by
  cases current <;> cases target <;> revert allowed <;> decide

/-- An allowed transition to an open state. -/
theorem transitionUpdate_open (childId : String) {current : FanoutManifestChild}
    {target : ChildLifecycle} (allowed : target ∈ current.status.transitions)
    (unfinished : target.isTerminal = false) :
    ∃ updated, transitionUpdate childId current target none none = .ok (some updated) ∧
      updated.toChildRecord = { current.toChildRecord with
        status := target, resultRef := none, resultDigest := none } := by
  obtain ⟨next, moved⟩ := transitions_apart allowed
  have sound := @moved_sound current target none none
    (by simp [ChildRecord.resultProblem, unfinished])
  refine ⟨⟨_, sound⟩, ?_, rfl⟩
  unfold transitionUpdate
  simp only [next, ok_bind, if_neg moved, unfinished, Bool.false_eq_true, if_false, and_self,
    ensure_of, ofRecord_of_sound sound]
  rfl

/-- An allowed transition to a terminal state, with its evidence. -/
theorem transitionUpdate_terminal (childId : String) {current : FanoutManifestChild}
    {target : ChildLifecycle} (allowed : target ∈ current.status.transitions)
    (ended : target.isTerminal = true) (ref : BoundedText 2048) (digest : Digest) :
    ∃ updated, transitionUpdate childId current target (some ref.value) (some digest.value) =
        .ok (some updated) ∧
      updated.toChildRecord = { current.toChildRecord with
        status := target, resultRef := some ref, resultDigest := some digest } := by
  obtain ⟨next, moved⟩ := transitions_apart allowed
  have sound := @moved_sound current target (some ref) (some digest)
    (by simp [ChildRecord.resultProblem, ended])
  have readRef : boundedText 2048 "result_ref" ref.value = .ok ref := by
    simp [boundedText, Except.mapError]
  have readDigest : digestText "result_digest" digest.value = .ok digest := by
    simp [digestText, Except.mapError]
  refine ⟨⟨_, sound⟩, ?_, rfl⟩
  unfold transitionUpdate
  simp only [next, ok_bind, if_neg moved, ended, if_true, readRef, readDigest,
    ofRecord_of_sound sound]
  rfl

theorem childIn_mem {children : List FanoutManifestChild} {childId : String}
    {c : FanoutManifestChild} (found : childIn children childId = .ok c) : c ∈ children := by
  unfold childIn at found
  obtain ⟨id, _, found⟩ := bind_ok.mp found
  split at found
  · next record held =>
    cases found
    exact List.mem_of_find?_eq_some held
  · cases found

theorem childIn_of_mem {children : List FanoutManifestChild}
    (unique : (children.map (·.childId)).Nodup) {c : FanoutManifestChild} (member : c ∈ children) :
    childIn children c.childId.value = .ok c := by
  unfold childIn
  rw [show identText 256 "child_id" c.childId.value = .ok c.childId by
    simp [identText, Except.mapError], ok_bind, Keyed.find_of_mem unique member]

theorem Ledger.recordTransition_of {l : Ledger} {childId : String}
    {current updated : FanoutManifestChild} {target : ChildLifecycle} {ref digest : Option String}
    (found : childIn l.children childId = .ok current)
    (update : transitionUpdate childId current target ref digest = .ok (some updated)) :
    l.recordTransition childId target ref digest =
      .ok { l with children := replaced l.children updated } := by
  unfold Ledger.recordTransition
  rw [found, ok_bind, update]
  rfl

/-- Replacing one record of a list without repeated ids. -/
theorem replaced_keepsPlace {parent : ManifestParentIdentity} {children : List FanoutManifestChild}
    {current updated : FanoutManifestChild} (unique : (children.map (·.childId)).Nodup)
    (member : current ∈ children) (same : SameBinding current updated) :
    List.Forall₂ (KeepsPlace parent parent) children (replaced children updated) := by
  rw [replaced, List.forall₂_map_right_iff, List.forall₂_same]
  intro item held
  by_cases here : item.childId = updated.childId
  · have it : item = current :=
      List.inj_on_of_nodup_map unique held member (here.trans same.childId)
    rw [if_pos here, it]
    exact same.keepsPlace
  · rw [if_neg here]
    exact (SameBinding.mk rfl rfl rfl rfl rfl).keepsPlace

end Records

/-! ## Following the ledger -/

def versionFull : Failure := schemaInvalid "manifest_version is outside the supported range"

/-- The outcome on a manifest is the outcome on its ledger, or the version range
is used up. `steps` bounds the snapshots taken. -/
inductive Follows [Sha256] (m : FanoutManifest) (steps : Int) :
    Except Failure Ledger → Except Failure FanoutManifest → Prop where
  | recorded {m' : FanoutManifest} (settled : Settled m')
      (semantics : m'.joinSemantics = m.joinSemantics)
      (version : m'.manifestVersion ≤ m.manifestVersion + steps) :
      Follows m steps (.ok (ledgerOf m')) (.ok m')
  | refused (failure : Failure) : Follows m steps (.error failure) (.error failure)
  | full {outcome : Except Failure Ledger} (range : maxManifestVersion < m.manifestVersion + steps) :
      Follows m steps outcome (.error versionFull)

section Following
variable [Sha256] {m : FanoutManifest}

theorem Follows.keep (h : Settled m) {steps : Int} (nonneg : 0 ≤ steps) :
    Follows m steps (.ok (ledgerOf m)) (.ok m) :=
  .recorded h rfl (by omega)

theorem Follows.mono {a b : Int} (less : a ≤ b) {outcome : Except Failure Ledger}
    {made : Except Failure FanoutManifest} (h : Follows m a outcome made) :
    Follows m b outcome made := by
  cases h with
  | recorded settled semantics version => exact .recorded settled semantics (by omega)
  | refused failure => exact .refused failure
  | full range => exact .full (by omega)

theorem Follows.bind {a b : Int} (nonneg : 0 ≤ b) {outcome : Except Failure Ledger}
    {made : Except Failure FanoutManifest} {f : Ledger → Except Failure Ledger}
    {g : FanoutManifest → Except Failure FanoutManifest} (first : Follows m a outcome made)
    (next : ∀ m', Settled m' → Follows m' b (f (ledgerOf m')) (g m')) :
    Follows m (a + b) (outcome >>= f) (made >>= g) := by
  cases first with
  | recorded settled semantics version =>
    rename_i m'
    have later := next m' settled
    simp only [ok_bind]
    generalize f (ledgerOf m') = outcome' at later ⊢
    generalize g m' = made' at later ⊢
    cases later with
    | recorded settled' semantics' version' =>
      exact .recorded settled' (semantics'.trans semantics) (by omega)
    | refused failure => exact .refused failure
    | full range => exact .full (by omega)
  | refused failure => exact .refused failure
  | full range => exact .full (by omega)

/-- With versions left, records that pass their checks make a manifest. -/
theorem Follows.returned {steps : Int} {l : Ledger} {made : Except Failure FanoutManifest}
    (follows : Follows m steps (.ok l) made) (room : m.manifestVersion + steps ≤ maxManifestVersion) :
    ∃ m', made = .ok m' ∧ ledgerOf m' = l ∧ Settled m' ∧ m'.joinSemantics = m.joinSemantics ∧
      m'.manifestVersion ≤ m.manifestVersion + steps := by
  generalize outcome : (Except.ok l : Except Failure Ledger) = expected at follows
  cases follows with
  | recorded settled semantics version =>
    cases outcome
    exact ⟨_, rfl, rfl, settled, semantics, version⟩
  | refused failure => cases outcome
  | full range => omega

theorem snapshot_follows (h : Settled m) {parent' : ManifestParentIdentity}
    {children' stale' : List FanoutManifestChild}
    (kept : List.Forall₂ (KeepsPlace m.parent parent') m.children children')
    (allStale : ∀ record ∈ stale', record.status = .stale) (staleSorted : stale'.Pairwise keyLe) :
    Follows m 1 (.ok ⟨parent', children', stale'⟩) (m.snapshot children' parent' stale') := by
  by_cases room : m.manifestVersion + 1 ≤ maxManifestVersion
  · have records := checkRecords_kept h.sorted kept h.records ⟨by omega, room⟩ allStale
    have sorted := keepsPlace_sorted kept h.sorted
    rw [snapshot, build_of_sorted records sorted staleSorted]
    generalize digest : canonicalDigest (.obj (payloadOf m.manifestId (m.manifestVersion + 1)
      parent' m.joinSemantics children' stale')) = expected
    have settled : Settled
        { manifestId := m.manifestId, manifestVersion := m.manifestVersion + 1, parent := parent'
          joinSemantics := m.joinSemantics, children := children', manifestDigest := expected
          staleChildren := stale' } :=
      ⟨records, sorted, staleSorted, digest.symm, h.semantics⟩
    exact .recorded settled rfl (le_refl _)
  · have beyond : maxManifestVersion < m.manifestVersion + 1 := by omega
    have refused : m.snapshot children' parent' stale' = .error versionFull := by
      rw [snapshot, build, make, checkRecords, ensure_error (fun range => room range.2)]
      rfl
    rw [refused]
    exact .full beyond

theorem Settled.unique (h : Settled m) : (m.children.map (·.childId)).Nodup :=
  ((checkRecords_ok_iff h.sorted).mp h.records).2.2.2.1

theorem Settled.allStale (h : Settled m) : ∀ record ∈ m.staleChildren, record.status = .stale :=
  ((checkRecords_ok_iff h.sorted).mp h.records).2.2.2.2.2.2

theorem recordTransition_follows (h : Settled m) (childId : String) (target : ChildLifecycle)
    (resultRef resultDigest : Option String) :
    Follows m 1 ((ledgerOf m).recordTransition childId target resultRef resultDigest)
      (m.recordTransition childId target resultRef resultDigest) := by
  unfold Ledger.recordTransition FanoutManifest.recordTransition FanoutManifest.child
  change Follows m 1 (childIn m.children childId >>= _) _
  cases found : childIn m.children childId with
  | error failure => exact .refused failure
  | ok current =>
    simp only [ok_bind]
    cases made : transitionUpdate childId current target resultRef resultDigest with
    | error failure => exact .refused failure
    | ok update =>
      cases update with
      | none => exact .keep h (by decide)
      | some updated =>
        exact snapshot_follows h
          (replaced_keepsPlace h.unique (childIn_mem found) (transitionUpdate_binding made))
          h.allStale h.staleSorted

end Following

/-! ## Late evidence -/

/-- A completion that is retained as stale evidence of the record. -/
def Late (current : FanoutManifestChild) (completion : ChildCompletion) : Prop :=
  completion.evidenceOnly = true ∨
    current.hasParentBinding = true ∧ completion.hasParentBinding = true ∧
      mismatched current completion

instance (current : FanoutManifestChild) (completion : ChildCompletion) :
    Decidable (Late current completion) := by unfold Late; infer_instance

/-- Evidence under this key is held already, or comes after all that is held. -/
def EvidenceInOrder (held : List FanoutManifestChild) (key : String × String) : Prop :=
  (∃ record ∈ held, record.key = key) ∨ ∀ record ∈ held, pairLe record.key key

instance (held : List FanoutManifestChild) (key : String × String) :
    Decidable (EvidenceInOrder held key) := by unfold EvidenceInOrder; infer_instance

/-- The stale records an operation adds come after the ones already held. -/
def InOrder (m : FanoutManifest) : Operation → Prop
  | .transition _ _ _ _ => True
  | .completion report => ∀ current ∈ m.children, current.childId.value = report.childId.value →
      Late current report →
      EvidenceInOrder m.staleChildren (report.childId.value, staleAttempt report)
  | .retry _ _ _ _ => ∀ prior ∈ m.children, prior.status.isTerminal →
      EvidenceInOrder m.staleChildren prior.key

instance (m : FanoutManifest) (operation : Operation) : Decidable (InOrder m operation) := by
  cases operation <;> unfold InOrder <;> infer_instance

section Evidence

theorem staleAttempt_stripped (completion : ChildCompletion) :
    strip (staleAttempt completion) = staleAttempt completion := by
  apply strip_of_noSpace
  intro c member
  apply isIdentifierChar_noSpace
  unfold staleAttempt at member
  cases attempt : completion.attemptId with
  | some id =>
    rw [attempt] at member
    exact (isIdentifier_chars id.identifier).2 c member
  | none =>
    rw [attempt] at member
    simp only [String.toList_append, List.mem_append, toString, String.toList_ofList] at member
    rcases member with ((lead | child) | colon) | hex
    · exact List.all_eq_true.mp (by decide) c lead
    · exact (isIdentifier_chars completion.childId.identifier).2 c child
    · exact List.all_eq_true.mp (by decide) c colon
    · have digit := List.mem_of_mem_drop (List.mem_of_mem_take hex)
      exact (completion.resultDigest.chars.2 c digit).1

theorem identText_ok {maxBytes : Nat} {name raw : String} {i : Ident maxBytes}
    (parsed : identText maxBytes name raw = .ok i) : i.value = strip raw := by
  unfold identText at parsed
  cases outcome : Ident.parse maxBytes raw with
  | error fault => simp [outcome, Except.mapError] at parsed
  | ok j =>
    simp only [outcome, Except.mapError, Except.ok.injEq] at parsed
    rw [← parsed]
    exact Ident.parse_ok outcome

@[simp] theorem identText_value {maxBytes : Nat} (name : String) (i : Ident maxBytes) :
    identText maxBytes name i.value = .ok i := by
  simp [identText, Except.mapError]

theorem staleChild_spec {current record : FanoutManifestChild} {completion : ChildCompletion}
    (made : staleChildFromCompletion current completion = .ok record) :
    record.childId = current.childId ∧ record.attemptId.value = staleAttempt completion ∧
      record.status = .stale := by
  unfold staleChildFromCompletion at made
  obtain ⟨attempt, parsed, built⟩ := bind_ok.mp made
  have fields := ofRecord_ok built
  refine ⟨by rw [fields], ?_, by rw [fields]⟩
  rw [fields]
  exact (identText_ok parsed).trans (staleAttempt_stripped completion)

theorem classify_stale {current record : FanoutManifestChild} {completion : ChildCompletion}
    (stale : classify current completion = .ok (.stale record)) :
    Late current completion ∧ staleChildFromCompletion current completion = .ok record := by
  unfold classify at stale
  obtain ⟨_, _, stale⟩ := bind_ok.mp stale
  split at stale
  · next evidence =>
    obtain ⟨made, built, stale⟩ := bind_ok.mp stale
    cases stale
    exact ⟨.inl evidence, built⟩
  · split at stale
    · next bound =>
      obtain ⟨_, reported, stale⟩ := bind_ok.mp stale
      split at stale
      · next apart =>
        obtain ⟨made, built, stale⟩ := bind_ok.mp stale
        cases stale
        exact ⟨.inr ⟨bound, ensure_ok.mp reported, apart⟩, built⟩
      · cases stale
    · obtain ⟨_, _, stale⟩ := bind_ok.mp stale
      cases stale

theorem childIn_value {children : List FanoutManifestChild} {childId : Ident 128}
    {c : FanoutManifestChild} (found : childIn children childId.value = .ok c) :
    c.childId.value = childId.value := by
  unfold childIn at found
  obtain ⟨id, parsed, found⟩ := bind_ok.mp found
  split at found
  · next record held =>
    cases found
    have same : c.childId = id := by simpa using List.find?_some held
    rw [same, identText_ok parsed]
    exact childId.stripped
  · cases found

/-- Evidence in order keeps the stale records sorted. -/
theorem staleWith_sorted {held records : List FanoutManifestChild} {stale : FanoutManifestChild}
    (added : staleWith held stale = .ok (some records)) (sorted : held.Pairwise keyLe)
    (inOrder : EvidenceInOrder held stale.key) : records = held ++ [stale] ∧ records.Pairwise keyLe := by
  unfold staleWith at added
  split at added
  · split at added <;> cases added
  · next fresh =>
    cases added
    refine ⟨rfl, ?_⟩
    rw [List.pairwise_append]
    refine ⟨sorted, List.pairwise_singleton _ _, ?_⟩
    intro record member other single
    rw [List.mem_singleton.mp single]
    rcases inOrder with ⟨prior, priorHeld, same⟩ | after
    · have absent := List.find?_eq_none.mp fresh prior priorHeld
      exact absurd same (by simpa using absent)
    · exact after record member

end Evidence

section Following
variable [Sha256] {m : FanoutManifest}

theorem appendStale_follows (h : Settled m) {stale : FanoutManifestChild}
    (status : stale.status = .stale) (inOrder : EvidenceInOrder m.staleChildren stale.key) :
    Follows m 1 ((ledgerOf m).appendStale stale) (m.appendStaleChild stale) := by
  unfold Ledger.appendStale FanoutManifest.appendStaleChild
  change Follows m 1 (staleWith m.staleChildren stale >>= _) _
  cases added : staleWith m.staleChildren stale with
  | error failure => exact .refused failure
  | ok update =>
    cases update with
    | none => exact .keep h (by decide)
    | some records =>
      obtain ⟨shape, sorted⟩ := staleWith_sorted added h.staleSorted inOrder
      refine snapshot_follows h ?_ ?_ sorted
      · exact List.forall₂_same.mpr fun c _ => (SameBinding.mk rfl rfl rfl rfl rfl).keepsPlace
      · intro record member
        rw [shape] at member
        rcases List.mem_append.mp member with old | new
        · exact h.allStale record old
        · rw [List.mem_singleton.mp new]
          exact status

theorem recordCompletion_follows (h : Settled m) (report : ChildCompletion)
    (inOrder : InOrder m (.completion report)) :
    Follows m 3 ((ledgerOf m).recordCompletion report) (m.recordCompletion report) := by
  unfold Ledger.recordCompletion FanoutManifest.recordCompletion FanoutManifest.child
  change Follows m 3 (childIn m.children report.childId.value >>= _) _
  dsimp only
  cases found : childIn m.children report.childId.value with
  | error failure => exact .refused failure
  | ok current =>
    simp only [ok_bind]
    cases kind : classify current report with
    | error failure => exact .refused failure
    | ok arrival =>
      cases arrival with
      | stale record =>
        obtain ⟨late, made⟩ := classify_stale kind
        obtain ⟨sameChild, attempt, status⟩ := staleChild_spec made
        have id := childIn_value found
        have key : record.key = (report.childId.value, staleAttempt report) := by
          rw [FanoutManifestChild.key, attempt, sameChild, id]
        have order := inOrder current (childIn_mem found) id late
        rw [← key] at order
        exact (appendStale_follows h status order).mono (by decide)
      | advancing =>
        -- at most three snapshots: DISPATCHED, RUNNING and the reported outcome
        have dispatch : Follows m 1
            (if current.status = .planned then
              (ledgerOf m).recordTransition report.childId.value .dispatched else .ok (ledgerOf m))
            (if current.status = .planned then m.recordTransition report.childId.value .dispatched
              else .ok m) := by
          split
          · exact recordTransition_follows h _ _ _ _
          · exact .keep h (by decide)
        refine Follows.bind (b := 2) (by decide) dispatch ?_
        intro m' settled
        change Follows m' 2 (childIn m'.children report.childId.value >>= _) _
        cases found' : childIn m'.children report.childId.value with
        | error failure => exact .refused failure
        | ok dispatched =>
          have run : Follows m' 1
              (if dispatched.status = .dispatched then
                (ledgerOf m').recordTransition report.childId.value .running else .ok (ledgerOf m'))
              (if dispatched.status = .dispatched then
                m'.recordTransition report.childId.value .running else .ok m') := by
            split
            · exact recordTransition_follows settled _ _ _ _
            · exact .keep settled (by decide)
          exact Follows.bind (b := 1) (by decide) run fun m'' settled' =>
            recordTransition_follows settled' _ _ _ _

/-! ### Retry -/

omit [Sha256] in
theorem asStale_key {prior record : FanoutManifestChild} (made : asStale prior = .ok record) :
    record.key = prior.key ∧ record.status = .stale := by
  have fields := ofRecord_ok made
  exact ⟨by rw [FanoutManifestChild.key, fields]; rfl, by rw [fields]⟩

omit [Sha256] in
/-- Retired in child order, the records stay sorted. -/
theorem retired_sorted {children held out : List FanoutManifestChild}
    (made : retired held children = .ok out) (sorted : children.Pairwise childLe)
    (unique : (children.map (·.childId)).Nodup) (heldSorted : held.Pairwise keyLe)
    (inOrder : ∀ prior ∈ children, prior.status.isTerminal → EvidenceInOrder held prior.key) :
    out.Pairwise keyLe := by
  induction children generalizing held with
  | nil =>
    cases made
    exact heldSorted
  | cons prior rest ih =>
    obtain ⟨before, restSorted⟩ := List.pairwise_cons.mp sorted
    obtain ⟨absent, restUnique⟩ := List.nodup_cons.mp unique
    have restOrder : ∀ p ∈ rest, p.status.isTerminal → EvidenceInOrder held p.key :=
      fun p member => inOrder p (by simp [member])
    unfold retired at made
    split at made
    · next terminal =>
      obtain ⟨record, staled, made⟩ := bind_ok.mp made
      obtain ⟨key, _⟩ := asStale_key staled
      split at made
      · exact ih made restSorted restUnique heldSorted restOrder
      · next fresh =>
        have after : ∀ r ∈ held, pairLe r.key prior.key := by
          rcases inOrder prior (by simp) terminal with ⟨r, member, same⟩ | after
          · refine absurd (List.any_eq_true.mpr ⟨r, member, ?_⟩) fresh
            simp [same, key]
          · exact after
        refine ih made restSorted restUnique ?_ ?_
        · rw [List.pairwise_append]
          refine ⟨heldSorted, List.pairwise_singleton _ _, ?_⟩
          intro r member other single
          rw [List.mem_singleton.mp single, keyLe, key]
          exact after r member
        · intro p member ended
          rcases restOrder p member ended with ⟨r, inHeld, same⟩ | later
          · exact .inl ⟨r, by simp [inHeld], same⟩
          · right
            intro r inNew
            rcases List.mem_append.mp inNew with old | new
            · exact later r old
            · rw [List.mem_singleton.mp new, key]
              have less : prior.childId.value ≤ p.childId.value := before p member
              have distinct : prior.childId.value ≠ p.childId.value := by
                intro same
                exact absent (List.mem_map.mpr ⟨p, member, Ident.ext same.symm⟩)
              exact .inl (lt_of_le_of_ne less distinct)
    · exact ih made restSorted restUnique heldSorted restOrder

omit [Sha256] in
theorem retired_allStale {children held out : List FanoutManifestChild}
    (made : retired held children = .ok out) (allStale : ∀ record ∈ held, record.status = .stale) :
    ∀ record ∈ out, record.status = .stale := by
  induction children generalizing held with
  | nil =>
    cases made
    exact allStale
  | cons prior rest ih =>
    unfold retired at made
    split at made
    · obtain ⟨record, staled, made⟩ := bind_ok.mp made
      split at made
      · exact ih made allStale
      · refine ih made ?_
        intro r member
        rcases List.mem_append.mp member with old | new
        · exact allStale r old
        · rw [List.mem_singleton.mp new]
          exact (asStale_key staled).2
    · exact ih made allStale

omit [Sha256] in
/-- A retried record keeps its place under the next generation of the parent. -/
theorem retriedRecord_keepsPlace {parent : ManifestParentIdentity} {changed : Bool}
    {childId attemptId nextParent : Ident 256} {nextLease : Option Nat}
    {prior record : FanoutManifestChild}
    (generation : changed = decide (nextParent ≠ parent.attemptId ∨ nextLease ≠ parent.leaseGeneration))
    (made : retriedRecord changed childId attemptId nextParent nextLease prior = .ok record) :
    KeepsPlace parent { parent with attemptId := nextParent, leaseGeneration := nextLease } prior
      record := by
  cases changed with
  | true =>
    simp only [retriedRecord, if_true] at made
    obtain ⟨attempt, _, built⟩ := bind_ok.mp made
    have fields := ofRecord_ok built
    refine ⟨by rw [fields], by rw [fields], ?_⟩
    intro bound
    unfold checkBinding FanoutManifestChild.hasParentBinding at *
    rw [fields]
    dsimp only
    cases version : prior.planVersion with
    | none => rfl
    | some planVersion =>
      rw [version] at bound
      obtain ⟨_, same, _⟩ := bind_ok.mp bound
      rw [ensure_of (ensure_ok.mp same)]
      simp [ensure]
  | false =>
    have same : nextParent = parent.attemptId ∧ nextLease = parent.leaseGeneration := by
      have kept := of_decide_eq_false generation.symm
      push Not at kept
      exact kept
    obtain ⟨rfl, rfl⟩ := same
    simp only [retriedRecord, Bool.false_eq_true, if_false] at made
    split at made
    · have fields := ofRecord_ok made
      exact (SameBinding.mk (by rw [fields]) (by rw [fields]) (by rw [fields]) (by rw [fields])
        (by rw [fields])).keepsPlace
    · cases made
      exact (SameBinding.mk rfl rfl rfl rfl rfl).keepsPlace

theorem retryChild_follows (h : Settled m) (childId attemptId : String)
    (parentAttemptId : Option String) (leaseGeneration : Option Nat)
    (inOrder : InOrder m (.retry childId attemptId parentAttemptId leaseGeneration)) :
    Follows m 1 ((ledgerOf m).retryChild childId attemptId parentAttemptId leaseGeneration)
      (m.retryChild childId attemptId parentAttemptId leaseGeneration) := by
  unfold Ledger.retryChild FanoutManifest.retryChild
  change Follows m 1 (retryParts m.parent m.children m.staleChildren childId attemptId
    parentAttemptId leaseGeneration >>= _) _
  cases parts : retryParts m.parent m.children m.staleChildren childId attemptId parentAttemptId
      leaseGeneration with
  | error failure => exact .refused failure
  | ok result =>
    unfold retryParts at parts
    obtain ⟨current, _, parts⟩ := bind_ok.mp parts
    obtain ⟨attempt, _, parts⟩ := bind_ok.mp parts
    obtain ⟨_, _, parts⟩ := bind_ok.mp parts
    obtain ⟨nextParent, _, parts⟩ := bind_ok.mp parts
    obtain ⟨stale, retire, parts⟩ := bind_ok.mp parts
    obtain ⟨children, records, parts⟩ := bind_ok.mp parts
    cases parts
    refine snapshot_follows h ?_ (retired_allStale retire h.allStale)
      (retired_sorted retire h.sorted h.unique h.staleSorted inOrder)
    exact (mapM_ok.mp records).imp fun a b made => retriedRecord_keepsPlace rfl made

/-- Every operation in order follows the ledger. -/
theorem apply_follows (h : Settled m) (operation : Operation) (inOrder : InOrder m operation) :
    Follows m 3 ((ledgerOf m).apply operation) (operation.apply m) := by
  cases operation with
  | transition childId target resultRef resultDigest =>
    exact (recordTransition_follows h childId target resultRef resultDigest).mono (by decide)
  | completion report => exact recordCompletion_follows h report inOrder
  | retry childId attemptId parentAttemptId leaseGeneration =>
    exact (retryChild_follows h childId attemptId parentAttemptId leaseGeneration inOrder).mono
      (by decide)

end Following

/-! ## The first snapshot -/

section FirstSnapshot

theorem assertChildBelongs_ok {parent : ParentContract} {child : ChildContract} :
    assertChildBelongs parent child = .ok () ↔
      child.runId = parent.runId ∧ child.nodeId = parent.nodeId ∧
      child.parentContractId = parent.contractId ∧
      child.parentContractDigest = parent.contractDigest ∧
      child.planVersion = parent.planVersion ∧
      child.parentBoundaryDigest = parent.boundaryDigest ∧
      child.sourceDigest = parent.sourceDigest ∧
      child.sourceManifestRef = parent.sourceManifestRef ∧
      child.standardsProfileRef = parent.standardsProfileRef ∧
      child.standardsProfileDigest = parent.standardsProfileDigest := by
  unfold assertChildBelongs
  rw [ensure_ok, List.filter_eq_nil_iff]
  simp only [parentBinding, childBinding, List.zip_cons_cons, List.zip_nil_right,
    List.forall_mem_cons, decide_eq_true_eq, not_not, List.not_mem_nil, false_imp_iff,
    implies_true, and_true, Ident.ext_iff, Digest.ext_iff, BoundedText.ext_iff]
  constructor
  · rintro ⟨run, node, contract, contractDigest, version, boundary, source, ref, _, profile,
      profileDigest⟩
    exact ⟨run.symm, node.symm, contract.symm, contractDigest.symm, version.symm, boundary.symm,
      source.symm, ref.symm, profile.symm, profileDigest.symm⟩
  · rintro ⟨run, node, contract, contractDigest, version, boundary, source, ref, profile,
      profileDigest⟩
    exact ⟨run.symm, node.symm, contract.symm, contractDigest.symm, version.symm, boundary.symm,
      source.symm, ref.symm, source.symm, profile.symm, profileDigest.symm⟩

open ManifestParentIdentity (childMatches) in
/-- What `from_parent` promises of the children of a plan. -/
structure ValidPlan (plan : FanoutPlan) : Prop where
  nonempty : plan.children ≠ []
  count : plan.children.length ≤ maxManifestChildren
  unique : (plan.children.map (·.childId)).Nodup
  bound : ∀ first ∈ plan.children, ∀ child ∈ plan.children, childMatches plan first child

theorem fromParent_valid [Sha256] {parent : ParentContract} {children : List ChildContract}
    {mode : FanoutMode} {maxParallel : Option Nat} {stages : Option (List (List String))}
    {joinPolicy : JoinPolicy} {plan : FanoutPlan}
    (made : FanoutPlan.fromParent parent children mode maxParallel stages joinPolicy = .ok plan) :
    ValidPlan plan := by
  unfold FanoutPlan.fromParent at made
  obtain ⟨_, nonempty, made⟩ := bind_ok.mp made
  obtain ⟨_, count, made⟩ := bind_ok.mp made
  obtain ⟨_, _, made⟩ := bind_ok.mp made
  obtain ⟨_, belong, made⟩ := bind_ok.mp made
  obtain ⟨_, unique, made⟩ := bind_ok.mp made
  obtain ⟨_, _, made⟩ := bind_ok.mp made
  obtain ⟨_, _, made⟩ := bind_ok.mp made
  obtain ⟨_, _, made⟩ := bind_ok.mp made
  cases made
  refine ⟨ensure_ok.mp nonempty, ensure_ok.mp count, ensure_ok.mp unique, ?_⟩
  intro first inFirst child inChildren
  have ofFirst := assertChildBelongs_ok.mp (checkAll_ok.mp belong first inFirst)
  have ofChild := assertChildBelongs_ok.mp (checkAll_ok.mp belong child inChildren)
  simp only [ManifestParentIdentity.childMatches, ofFirst, ofChild, and_self]

/-- A parallel fan-out over children that belong to the parent has a plan. -/
theorem fromParent_parallel [Sha256] {parent : ParentContract} {children : List ChildContract}
    (nonempty : children ≠ []) (count : children.length ≤ 64)
    (room : children.length ≤ parent.maxChildren)
    (belong : ∀ child ∈ children, assertChildBelongs parent child = .ok ())
    (unique : (children.map (·.childId)).Nodup)
    (parallel : 1 ≤ parent.maxParallel ∧ parent.maxParallel ≤ 64) :
    ∃ plan, FanoutPlan.fromParent parent children = .ok plan ∧ plan.children = children ∧
      plan.runId = parent.runId ∧ plan.nodeId = parent.nodeId ∧
      plan.planVersion = parent.planVersion := by
  have belongs : checkAll (assertChildBelongs parent) children = .ok () := checkAll_ok.mpr belong
  unfold FanoutPlan.fromParent
  simp only [Option.getD_none, ensure_of nonempty, ensure_of count, ensure_of room,
    belongs, ensure_of unique, ensure_of parallel, ensure_of (Nat.le_refl _),
    FanoutPlan.normalizeStages, ok_bind]
  exact ⟨_, rfl, rfl, rfl, rfl, rfl⟩

/-- The PLANNED record of a child of the plan. -/
structure Planned (plan : FanoutPlan) (parent : ManifestParentIdentity) (child : ChildContract)
    (record : FanoutManifestChild) : Prop where
  childId : record.childId.value = child.childId.value
  status : record.status = .planned
  contractDigest : record.childContractDigest = child.contractDigest
  planVersion : record.planVersion = some plan.planVersion
  planDigest : record.planDigest = some plan.planDigest
  parentAttemptId : record.parentAttemptId = some parent.attemptId
  leaseGeneration : record.leaseGeneration = parent.leaseGeneration

theorem plannedRecord_spec {plan : FanoutPlan} {parent : ManifestParentIdentity}
    {attemptId : String} {timeout : Nat} {attempts : List (String × String)} {child : ChildContract}
    {record : FanoutManifestChild}
    (made : plannedRecord plan parent attemptId timeout attempts child = .ok record) :
    Planned plan parent child record := by
  unfold plannedRecord at made
  obtain ⟨_, _, built⟩ := bind_ok.mp made
  have fields := ofRecord_ok built
  constructor
  case childId =>
    rw [fields]
    rfl
  all_goals rw [fields]

theorem planParts_spec {plan : FanoutPlan} {attemptId : String} {options : PlanOptions}
    {id : Ident 256} {parent : ManifestParentIdentity} {records : List FanoutManifestChild}
    (parts : planParts plan attemptId options = .ok (id, parent, records)) :
    List.Forall₂ (Planned plan parent) plan.children records ∧
      parent.planVersion = plan.planVersion := by
  unfold planParts at parts
  obtain ⟨parent', identity, parts⟩ := bind_ok.mp parts
  obtain ⟨_, _, parts⟩ := bind_ok.mp parts
  obtain ⟨_, _, parts⟩ := bind_ok.mp parts
  obtain ⟨records', planned, parts⟩ := bind_ok.mp parts
  obtain ⟨_, _, parts⟩ := bind_ok.mp parts
  obtain ⟨id', _, parts⟩ := bind_ok.mp parts
  cases parts
  refine ⟨(mapM_ok.mp planned).imp fun _ _ made => plannedRecord_spec made, ?_⟩
  unfold ManifestParentIdentity.fromPlan at identity
  split at identity
  · cases identity
  · obtain ⟨_, _, identity⟩ := bind_ok.mp identity
    obtain ⟨_, _, identity⟩ := bind_ok.mp identity
    obtain ⟨_, _, identity⟩ := bind_ok.mp identity
    cases identity
    rfl

/-- The inputs of a first snapshot check once its texts do. -/
theorem planParts_ok {plan : FanoutPlan} (valid : ValidPlan plan) {attempt : Ident 256}
    {options : PlanOptions} {token : Option (BoundedText 2048)} {id : Ident 256}
    (fencing : optionally (boundedText 2048 "fencing_token") options.fencingToken = .ok token)
    (timed : 0 < options.timeoutSeconds)
    (known : ∀ name ∈ (options.childAttemptIds.getD []).map Prod.fst,
      name ∈ plan.children.map (·.childId.value))
    (attempts : ∀ child ∈ plan.children, ∃ a : Ident 256,
      identText 256 "attempt_id" (((options.childAttemptIds.getD []).lookup child.childId.value).getD
        s!"{attempt.value}:{child.childId.value}") = .ok a)
    (complete : options.childAttemptIds = none ∨ options.allowPartial = true)
    (named : identText 256 "manifest_id" (selectedId plan options.manifestId) = .ok id) :
    ∃ parent records, planParts plan attempt.value options = .ok (id, parent, records) ∧
      parent.attemptId = attempt ∧ parent.leaseGeneration = options.leaseGeneration := by
  obtain ⟨first, rest, listed⟩ := List.exists_cons_of_ne_nil valid.nonempty
  have identity : ∃ parent, ManifestParentIdentity.fromPlan plan attempt.value
      options.leaseGeneration options.fencingToken = .ok parent ∧ parent.attemptId = attempt ∧
      parent.leaseGeneration = options.leaseGeneration := by
    have matching : checkAll (fun child => ensure (ManifestParentIdentity.childMatches plan first child)
        (contractMismatch s!"child identity/digest does not match parent for {child.childId.value}"))
        (first :: rest) = .ok () := by
      rw [checkAll_ok]
      intro child member
      exact ensure_of (valid.bound first (by simp [listed]) child (listed ▸ member)) _
    unfold ManifestParentIdentity.fromPlan
    simp only [listed, matching, identText_value, fencing, ok_bind]
    exact ⟨_, rfl, rfl, rfl⟩
  obtain ⟨parent, identity, attemptId, lease⟩ := identity
  have record (child : ChildContract) (member : child ∈ plan.children) :
      ∃ r, plannedRecord plan parent attempt.value options.timeoutSeconds
        (options.childAttemptIds.getD []) child = .ok r := by
    obtain ⟨a, parsed⟩ := attempts child member
    unfold plannedRecord FanoutManifestChild.ofRecord
    simp only [parsed, ok_bind]
    split
    · next failure found =>
      simp [ChildRecord.problem, ChildRecord.resultProblem, ChildRecord.bindingProblem,
        ChildLifecycle.isTerminal, timed.ne'] at found
    · exact ⟨_, rfl⟩
  obtain ⟨records, mapped⟩ := exists_mapM_ok record
  have noUnknown : ((options.childAttemptIds.getD []).map Prod.fst).filter
      (· ∉ plan.children.map (·.childId.value)) = [] := by
    rw [List.filter_eq_nil_iff]
    intro name member
    simpa using known name member
  refine ⟨parent, records, ?_, attemptId, lease⟩
  unfold planParts
  simp only [identity, ensure_of timed, ensure_of noUnknown, mapped, ensure_of (Or.inr complete),
    named, ok_bind]
  rfl

theorem planned_ids {plan : FanoutPlan} {parent : ManifestParentIdentity}
    {children : List ChildContract} {records : List FanoutManifestChild}
    (planned : List.Forall₂ (Planned plan parent) children records) :
    records.map (·.childId.value) = children.map (·.childId.value) := by
  induction planned with
  | nil => rfl
  | cons first _ ih => simp [first.childId, ih]

theorem planned_of_mem {plan : FanoutPlan} {parent : ManifestParentIdentity}
    {children : List ChildContract} {records : List FanoutManifestChild}
    (planned : List.Forall₂ (Planned plan parent) children records) {record : FanoutManifestChild}
    (member : record ∈ records) : ∃ child ∈ children, Planned plan parent child record := by
  induction planned with
  | nil => cases member
  | cons first _ ih =>
    rcases List.mem_cons.mp member with rfl | later
    · exact ⟨_, by simp, first⟩
    · obtain ⟨child, held, holds⟩ := ih later
      exact ⟨child, by simp [held], holds⟩

/-- The records of a plan pass the checks of a snapshot in any order. -/
theorem planned_checks {plan : FanoutPlan} {parent : ManifestParentIdentity}
    {records : List FanoutManifestChild} (valid : ValidPlan plan)
    (planned : List.Forall₂ (Planned plan parent) plan.children records)
    (version : parent.planVersion = plan.planVersion) :
    checkRecords 1 parent records [] = .ok () := by
  have unique : (records.map (·.childId)).Nodup := by
    have values : (records.map (·.childId.value)).Nodup := by
      rw [planned_ids planned, ← Function.comp_def, ← List.map_map]
      exact valid.unique.map fun a b same => Ident.ext same
    rw [← Function.comp_def, ← List.map_map] at values
    exact values.of_map _
  have nonempty : records ≠ [] := by
    intro empty
    have count := planned.length_eq
    rw [empty] at count
    exact valid.nonempty (List.length_eq_zero_iff.mp count)
  have sortedIds : ((records.insertionSort childLe).map (·.childId)).Nodup :=
    ((List.perm_insertionSort childLe records).map _).nodup_iff.mpr unique
  have bound : ∀ c ∈ records.insertionSort childLe, checkBinding parent c = .ok () := by
    intro c member
    obtain ⟨child, _, holds⟩ := planned_of_mem planned ((List.mem_insertionSort childLe).mp member)
    simp [checkBinding, holds.planVersion, holds.parentAttemptId, holds.leaseGeneration, version,
      FanoutManifestChild.hasParentBinding, ensure]
  have digests : ((records.insertionSort childLe).filterMap (·.planDigest)).dedup.length ≤ 1 := by
    have single : ((records.insertionSort childLe).filterMap (·.planDigest)).dedup ⊆
        [plan.planDigest] := by
      intro digest member
      obtain ⟨c, held, has⟩ := List.mem_filterMap.mp (List.mem_dedup.mp member)
      obtain ⟨child, _, holds⟩ := planned_of_mem planned ((List.mem_insertionSort childLe).mp held)
      rw [holds.planDigest] at has
      simp [Option.some.inj has]
    exact (List.subperm_of_subset (List.nodup_dedup _) single).length_le
  have count : records.length ≤ maxManifestChildren := planned.length_eq ▸ valid.count
  simp only [checkRecords, bind_ok, ensure_ok, checkAll_ok]
  exact ⟨(), by decide, (), nonempty, (), count, (), sortedIds, (), bound, (), digests, by simp⟩

theorem planned_sorted {plan : FanoutPlan} {parent : ManifestParentIdentity}
    {children : List ChildContract} {records : List FanoutManifestChild}
    (planned : List.Forall₂ (Planned plan parent) children records)
    (listed : children.Pairwise fun a b => a.childId.value ≤ b.childId.value) :
    records.Pairwise childLe := by
  have ids := planned_ids planned
  have byId : (records.map (·.childId.value)).Pairwise (· ≤ ·) := by
    rw [ids, List.pairwise_map]
    exact listed
  rw [List.pairwise_map] at byId
  exact byId

variable [Sha256] {plan : FanoutPlan} {attemptId : String} {options : PlanOptions}

/-- A plan listed in child order gives a manifest once its parts check. -/
theorem fromPlan_of_listed (valid : ValidPlan plan)
    (listed : plan.children.Pairwise fun a b => a.childId.value ≤ b.childId.value)
    {id : Ident 256} {parent : ManifestParentIdentity} {records : List FanoutManifestChild}
    (parts : planParts plan attemptId options = .ok (id, parent, records)) :
    ∃ m, fromPlan plan attemptId options = .ok m ∧ Settled m ∧ ledgerOf m = ⟨parent, records, []⟩ ∧
      m.manifestVersion = 1 ∧ m.joinSemantics = plan.joinSemantics := by
  obtain ⟨planned, version⟩ := planParts_spec parts
  have records' := planned_checks valid planned version
  have sorted := planned_sorted planned listed
  rw [fromPlan, parts]
  simp only [ok_bind, build_of_sorted records' sorted List.Pairwise.nil]
  generalize digest : canonicalDigest (.obj (payloadOf id 1 parent plan.joinSemantics records [])) =
    expected
  exact ⟨_, rfl, ⟨records', sorted, List.Pairwise.nil, digest.symm, JoinSemantics.forPolicy_valid _⟩,
    rfl, rfl, rfl⟩

/-- Whatever the order, the parts decide all but the digest. -/
theorem fromPlan_ok_iff (valid : ValidPlan plan)
    {id : Ident 256} {parent : ManifestParentIdentity} {records : List FanoutManifestChild}
    (parts : planParts plan attemptId options = .ok (id, parent, records)) :
    (∃ m, fromPlan plan attemptId options = .ok m) ↔
      canonicalDigest (.obj (payloadOf id 1 parent plan.joinSemantics records [])) =
        canonicalDigest (.obj (payloadOf id 1 parent plan.joinSemantics
          (records.insertionSort childLe) [])) := by
  obtain ⟨planned, version⟩ := planParts_spec parts
  rw [fromPlan, parts]
  exact build_ok_iff (planned_checks valid planned version)

theorem fromPlan_settled {m : FanoutManifest} (made : fromPlan plan attemptId options = .ok m) :
    Settled m := by
  unfold fromPlan at made
  obtain ⟨_, _, made⟩ := bind_ok.mp made
  exact make_ok (JoinSemantics.forPolicy_valid _) made

end FirstSnapshot

end DwSuperApps.Guarantees.ManifestLedger
