import Mathlib.Algebra.Order.BigOperators.Group.List
import DwSuperApps.Guarantees.CoordinatorHistory
import DwSuperApps.Guarantees.ManifestOrder

/-!
# The manifest of a coordinator

`from_coordinator` replays the transitions of a coordinator on the first manifest
of its plan and then appends its stale evidence. A coordinator whose texts fit and
whose evidence is in the key order of the manifest has a manifest with the same
lifecycle states, the same join and all of the evidence.
-/
namespace DwSuperApps.Guarantees.CoordinatorProjection

open DwSuperApps.Lib DwSuperApps.Lib.Checked DwSuperApps.Lib.Runs
open DwSuperApps.Source.Fanout DwSuperApps.Source.Manifest
open DwSuperApps.Source.Manifest.FanoutManifest
open DwSuperApps.Source.Manifest.FanoutManifestChild (childLe keyLe)
open DwSuperApps.Guarantees.ManifestLedger DwSuperApps.Guarantees.CoordinatorHistory
open DwSuperApps.Guarantees.ManifestOrder (reviewParent api web firstChildHash reviewPlan_made
  reversed_refused)

/-! ## Texts of a projection -/

section Texts

theorem digest_ascii (d : Digest) (k : Nat) :
    (∀ c ∈ (d.value.toList.drop k).take 8, isIdentifierChar c) ∧
      utf8Bytes (String.ofList ((d.value.toList.drop k).take 8)) ≤ 8 := by
  have within : ∀ c ∈ (d.value.toList.drop k).take 8, c ∈ d.value.toList :=
    fun c member => List.mem_of_mem_drop (List.mem_of_mem_take member)
  refine ⟨fun c member => (d.chars.2 c (within c member)).1, ?_⟩
  rw [utf8Bytes, String.toList_ofList,
    Digest.ascii_bytes fun c member => (d.chars.2 c (within c member)).2]
  exact List.length_take_le _ _

/-- The attempt a stale record is filed under is always an identifier. -/
theorem staleAttempt_ident (s : ChildCompletion) : ∃ i : Ident 256, i.value = staleAttempt s := by
  unfold staleAttempt
  cases s.attemptId with
  | some attempt => exact ⟨attempt.widen (by decide), rfl⟩
  | none =>
    obtain ⟨hex, short⟩ := digest_ascii s.resultDigest 7
    generalize (s.resultDigest.value.toList.drop 7).take 8 = tail at hex short
    have child := s.childId.bounded
    have lead : utf8Bytes "stale:" = 6 := by decide
    have colon : utf8Bytes ":" = 1 := by decide
    refine ⟨⟨_, ?_, ?_⟩, rfl⟩
    · refine isIdentifier_append (isIdentifier_append (isIdentifier_append (by decide) ?_) ?_) ?_
      · exact (isIdentifier_chars s.childId.identifier).2
      · exact List.all_eq_true.mp (by decide)
      · simpa only [toString, String.toList_ofList] using hex
    · simp only [toString, utf8Bytes_append, lead, colon]
      omega

theorem selectedId_ident {plan : FanoutPlan} (fits : utf8Bytes (selectedId plan none) ≤ 256) :
    ∃ i : Ident 256, i.value = selectedId plan none := by
  refine ⟨⟨_, ?_, fits⟩, rfl⟩
  refine isIdentifier_append (isIdentifier_append (isIdentifier_append (isIdentifier_append
    (isIdentifier_append (by decide) ?_) ?_) ?_) ?_) ?_
  · exact (isIdentifier_chars plan.runId.identifier).2
  · exact List.all_eq_true.mp (by decide)
  · exact (isIdentifier_chars plan.nodeId.identifier).2
  · exact List.all_eq_true.mp (by decide)
  · exact (isIdentifier_chars plan.planVersion.identifier).2

theorem defaultAttempt_ident {attempt childId : Ident 128}
    (fits : utf8Bytes s!"{attempt.value}:{childId.value}" ≤ 256) :
    ∃ i : Ident 256, i.value = s!"{attempt.value}:{childId.value}" := by
  refine ⟨⟨_, ?_, fits⟩, rfl⟩
  refine isIdentifier_append (isIdentifier_append attempt.identifier ?_) ?_
  · exact List.all_eq_true.mp (by decide)
  · exact (isIdentifier_chars childId.identifier).2

end Texts

/-! ## What a projection needs -/

/-- Key of the manifest record that retains a stale completion. -/
def evidenceKey (s : ChildCompletion) : String × String := (s.childId.value, staleAttempt s)

/-- Strictly before in the key order of the manifest. -/
def KeyBefore (a b : ChildCompletion) : Prop :=
  pairLe (evidenceKey a) (evidenceKey b) ∧ evidenceKey a ≠ evidenceKey b

instance : DecidableRel KeyBefore := fun a b => by unfold KeyBefore; infer_instance

local instance : LawfulBEq (Ident 128) := inferInstance

/-- Transitions `from_coordinator` replays for a child. -/
def transitionsOf (c : FanoutCoordinator) (child : ChildContract) : Int :=
  match c.completionOf child.childId with
  | some _ => 3
  | none => if child.childId ∈ c.dispatchWindow then 1 else 0

/-- The texts `from_coordinator` makes up fit their bounds. -/
structure TextsFit (c : FanoutCoordinator) (attempt : Ident 128) : Prop where
  manifestId : utf8Bytes (selectedId c.plan none) ≤ 256
  attemptIds : ∀ child ∈ c.plan.children, c.childAttemptIds.lookup child.childId = none →
    utf8Bytes s!"{attempt.value}:{child.childId.value}" ≤ 256

/-- The children are listed by id, the stale completions are in the key order of
the manifest, and the texts and the version of the manifest fit their bounds. -/
structure Projectable (c : FanoutCoordinator) (attempt : Ident 128) : Prop
    extends TextsFit c attempt where
  listed : c.plan.children.Pairwise fun a b => a.childId.value ≤ b.childId.value
  evidence : c.staleCompletions.Pairwise KeyBefore
  room : 1 + (c.plan.children.map (transitionsOf c)).sum + c.staleCompletions.length ≤
    maxManifestVersion

/-! ## The first snapshot -/

section Start
variable {c : FanoutCoordinator} {attempt : Ident 128}

theorem lookup_values (ids : AttemptIds) (id : Ident 128) :
    (ids.map fun p => (p.1.value, p.2.value)).lookup id.value = (ids.lookup id).map (·.value) := by
  induction ids with
  | nil => rfl
  | cons p rest ih =>
    obtain ⟨child, held⟩ := p
    rw [List.map_cons, List.lookup_cons, List.lookup_cons]
    by_cases here : id = child
    · simp [here]
    · have apart : id.value ≠ child.value := fun same => here (Ident.ext same)
      rw [beq_false_of_ne here, beq_false_of_ne apart]
      exact ih

theorem child?_mem {plan : FanoutPlan} {child : ChildContract} (member : child ∈ plan.children)
    (unique : (plan.children.map (·.childId)).Nodup) : plan.child? child.childId = some child :=
  Keyed.find_of_mem unique member

theorem child?_some {plan : FanoutPlan} {id : Ident 128} {child : ChildContract}
    (found : plan.child? id = some child) : child ∈ plan.children ∧ child.childId = id :=
  Keyed.find_some found

/-- The arguments `from_plan` is called with check. -/
theorem start_checked (sound : Sound c) (valid : ValidPlan c.plan)
    (bound : c.parentAttemptId = some attempt) (fits : TextsFit c attempt) :
    ∃ options id parent records, coordinatorPlanOptions c {} = .ok (attempt.value, options) ∧
      planParts c.plan attempt.value options = .ok (id, parent, records) := by
  have held : c.parentAttemptId.map (·.value) = some attempt.value := by simp [bound]
  let given := c.childAttemptIds.map fun p => (p.1.value, p.2.value)
  let options : PlanOptions :=
    { leaseGeneration := c.leaseGeneration, childAttemptIds := nonEmptyIds given
      allowPartial := true }
  have selected : coordinatorPlanOptions c {} = .ok (attempt.value, options) := by
    unfold coordinatorPlanOptions
    simp only [held, Option.filter_none, Option.none_or, Option.getD_none, or_true, ensure_of,
      ok_bind]
    rfl
  have ids : options.childAttemptIds.getD [] = given := by
    change (nonEmptyIds given).getD [] = given
    unfold nonEmptyIds
    split
    · next empty => exact empty.symm
    · rfl
  obtain ⟨manifestId, named⟩ := selectedId_ident fits.manifestId
  have known : ∀ name ∈ (options.childAttemptIds.getD []).map Prod.fst,
      name ∈ c.plan.children.map (·.childId.value) := by
    rw [ids]
    intro name member
    obtain ⟨_, listed, rfl⟩ := List.mem_map.mp member
    obtain ⟨p, inIds, rfl⟩ := List.mem_map.mp listed
    obtain ⟨child, found⟩ := Option.ne_none_iff_exists'.mp (sound.attempts p inIds)
    obtain ⟨ofPlan, same⟩ := child?_some found
    exact List.mem_map.mpr ⟨child, ofPlan, by rw [same]⟩
  have attempts : ∀ child ∈ c.plan.children, ∃ a : Ident 256, identText 256 "attempt_id"
      (((options.childAttemptIds.getD []).lookup child.childId.value).getD
        s!"{attempt.value}:{child.childId.value}") = .ok a := by
    intro child member
    rw [ids, lookup_values]
    cases found : c.childAttemptIds.lookup child.childId with
    | some a =>
      have widened : (a.widen (by decide) : Ident 256).value = a.value := rfl
      exact ⟨a.widen (by decide), widened ▸ identText_value "attempt_id" _⟩
    | none =>
      obtain ⟨i, same⟩ := defaultAttempt_ident (fits.attemptIds child member found)
      exact ⟨i, by rw [Option.map_none, Option.getD_none, ← same]; exact identText_value _ i⟩
  obtain ⟨parent, records, parts, _⟩ := @planParts_ok c.plan valid (attempt.widen (by decide)) options
    none manifestId rfl (show 0 < defaultChildTimeoutSeconds by decide) known attempts (.inr rfl)
    (named ▸ identText_value "manifest_id" manifestId)
  exact ⟨options, manifestId, parent, records, selected, parts⟩

end Start

/-! ## Replaying the transitions -/

/-- A record with its status and evidence changed. -/
def Moved (a b : FanoutManifestChild) : Prop :=
  ∃ status ref digest, b.toChildRecord = { a.toChildRecord with
    status := status, resultRef := ref, resultDigest := digest }

theorem Moved.trans {a b d : FanoutManifestChild} (first : Moved a b) (second : Moved b d) :
    Moved a d := by
  obtain ⟨_, _, _, ofFirst⟩ := first
  obtain ⟨status, ref, digest, ofSecond⟩ := second
  exact ⟨status, ref, digest, by rw [ofSecond, ofFirst]⟩

theorem Moved.childId {a b : FanoutManifestChild} (moved : Moved a b) : b.childId = a.childId := by
  obtain ⟨_, _, _, fields⟩ := moved
  rw [fields]

theorem mem_replaced {children : List FanoutManifestChild} {updated r : FanoutManifestChild}
    (member : r ∈ replaced children updated) :
    r = updated ∨ r ∈ children ∧ r.childId ≠ updated.childId := by
  obtain ⟨item, held, same⟩ := List.mem_map.mp member
  by_cases here : item.childId = updated.childId
  · rw [if_pos here] at same
    exact .inl same.symm
  · rw [if_neg here] at same
    exact .inr (same ▸ ⟨held, here⟩)

theorem replaced_self {children : List FanoutManifestChild} {current : FanoutManifestChild}
    (unique : (children.map (·.childId)).Nodup) (member : current ∈ children) :
    replaced children current = children := by
  unfold replaced
  rw [List.map_congr_left, List.map_id']
  intro item held
  split
  · next here => exact (List.inj_on_of_nodup_map unique held member here).symm
  · rfl

theorem replaced_replaced {children : List FanoutManifestChild} {a b : FanoutManifestChild}
    (same : b.childId = a.childId) : replaced (replaced children a) b = replaced children b := by
  unfold replaced
  rw [List.map_map, List.map_congr_left]
  intro item _
  by_cases here : item.childId = a.childId <;> simp [here, same]

section Replay
variable [Sha256] {m m' m'' : FanoutManifest} {c : FanoutCoordinator}

/-- One record of the manifest moved, in at most `steps` snapshots. -/
structure Moves (m m' : FanoutManifest) (current updated : FanoutManifestChild) (steps : Int) :
    Prop where
  settled : Settled m'
  semantics : m'.joinSemantics = m.joinSemantics
  children : m'.children = replaced m.children updated
  moved : Moved current updated
  staleChildren : m'.staleChildren = m.staleChildren
  version : m'.manifestVersion ≤ m.manifestVersion + steps

theorem Moves.trans {a b d : FanoutManifestChild} {k l : Int} (first : Moves m m' a b k)
    (second : Moves m' m'' b d l) : Moves m m'' a d (k + l) where
  settled := second.settled
  semantics := second.semantics.trans first.semantics
  children := by rw [second.children, first.children, replaced_replaced second.moved.childId]
  moved := first.moved.trans second.moved
  staleChildren := second.staleChildren.trans first.staleChildren
  version := by
    have := first.version
    have := second.version
    omega

theorem Moves.member {a b : FanoutManifestChild} {k : Int} (moves : Moves m m' a b k)
    (member : a ∈ m.children) : b ∈ m'.children := by
  rw [moves.children]
  exact List.mem_map.mpr ⟨a, member, if_pos moves.moved.childId.symm⟩

theorem transition_moves (h : Settled m) {current updated : FanoutManifestChild}
    (member : current ∈ m.children) {target : ChildLifecycle} {ref digest : Option String}
    (update : transitionUpdate current.childId.value current target ref digest = .ok (some updated))
    (moved : Moved current updated) (room : m.manifestVersion + 1 ≤ maxManifestVersion) :
    ∃ m', m.recordTransition current.childId.value target ref digest = .ok m' ∧
      Moves m m' current updated 1 := by
  have found := childIn_of_mem h.unique member
  have passes := Ledger.recordTransition_of (show childIn (ledgerOf m).children _ = _ from found) update
  have follows := recordTransition_follows h current.childId.value target ref digest
  rw [passes] at follows
  obtain ⟨m', made, ledger, settled, semantics, version⟩ := follows.returned room
  exact ⟨m', made, settled, semantics, congrArg Ledger.children ledger, moved,
    congrArg Ledger.staleChildren ledger, version⟩

theorem open_moves (h : Settled m) {current : FanoutManifestChild} (member : current ∈ m.children)
    {target : ChildLifecycle} (allowed : target ∈ current.status.transitions)
    (unfinished : target.isTerminal = false) (room : m.manifestVersion + 1 ≤ maxManifestVersion) :
    ∃ m' updated, m.recordTransition current.childId.value target = .ok m' ∧
      Moves m m' current updated 1 ∧ updated.status = target := by
  obtain ⟨updated, update, fields⟩ :=
    transitionUpdate_open current.childId.value allowed unfinished
  obtain ⟨m', made, moves⟩ := transition_moves h member update ⟨_, _, _, fields⟩ room
  exact ⟨m', updated, made, moves, by rw [fields]⟩

theorem terminal_moves (h : Settled m) {current : FanoutManifestChild}
    (member : current ∈ m.children) {completion : ChildCompletion}
    (running : current.status = .running) (room : m.manifestVersion + 1 ≤ maxManifestVersion) :
    ∃ m' updated, m.recordTransition current.childId.value completion.lifecycle
        (some completion.resultRef.value) (some completion.resultDigest.value) = .ok m' ∧
      Moves m m' current updated 1 ∧ updated.status = completion.lifecycle := by
  have allowed : completion.lifecycle ∈ current.status.transitions := by
    rw [running]
    unfold ChildCompletion.lifecycle
    cases completion.status <;> decide
  obtain ⟨updated, update, fields⟩ := transitionUpdate_terminal current.childId.value allowed
    (CompletionStatus.lifecycle_terminal completion.status)
    (completion.resultRef.widen (by decide)) completion.resultDigest
  obtain ⟨m', made, moves⟩ := transition_moves h member update ⟨_, _, _, fields⟩ room
  exact ⟨m', updated, made, moves, by rw [fields]⟩

/-- Replaying one child takes its PLANNED record to its coordinator state. -/
theorem replayChild_moves (h : Settled m) {child : ChildContract}
    (ofPlan : c.plan.child? child.childId = some child) {current : FanoutManifestChild}
    (member : current ∈ m.children) (id : current.childId.value = child.childId.value)
    (planned : current.status = .planned)
    (room : m.manifestVersion + transitionsOf c child ≤ maxManifestVersion) :
    ∃ m' updated, replayChild c m child = .ok m' ∧
      Moves m m' current updated (transitionsOf c child) ∧
      c.lifecycleState child.childId = .ok updated.status := by
  have known : c.plan.child? child.childId ≠ none := by simp [ofPlan]
  unfold replayChild FanoutCoordinator.lifecycleState
  unfold transitionsOf at room ⊢
  rw [if_neg known, ← id]
  cases completed : c.completionOf child.childId with
  | none =>
    rw [completed] at room
    by_cases window : child.childId ∈ c.dispatchWindow
    · simp only [window, if_true] at room ⊢
      obtain ⟨m', updated, made, moves, status⟩ :=
        open_moves h member (show .dispatched ∈ _ by rw [planned]; decide) rfl room
      refine ⟨m', updated, ?_, moves, by rw [status]⟩
      simp only [ok_bind, made]
      rfl
    · simp only [window, if_false] at room ⊢
      refine ⟨m, current, rfl, ?_, by rw [planned]⟩
      exact ⟨h, rfl, (replaced_self h.unique member).symm, ⟨_, _, _, rfl⟩, rfl, by omega⟩
  | some completion =>
    rw [completed] at room
    dsimp only at room ⊢
    obtain ⟨m₁, first, dispatched, moves₁, status₁⟩ :=
      open_moves h member (show .dispatched ∈ _ by rw [planned]; decide) rfl (by omega)
    have version₁ := moves₁.version
    obtain ⟨m₂, second, ran, moves₂, status₂⟩ := open_moves moves₁.settled (moves₁.member member)
      (show .running ∈ _ by rw [status₁]; decide) rfl (by omega)
    have version₂ := moves₂.version
    have both := moves₁.trans moves₂
    obtain ⟨m₃, third, ended, moves₃, status₃⟩ := @terminal_moves _ m₂ moves₂.settled second
      (both.member member) completion status₂ (by omega)
    refine ⟨m₃, third, ?_, both.trans moves₃, by rw [status₃]⟩
    have unplanned : completion.lifecycle ≠ .planned := by
      unfold ChildCompletion.lifecycle
      cases completion.status <;> decide
    have undispatched : completion.lifecycle ≠ .dispatched := by
      unfold ChildCompletion.lifecycle
      cases completion.status <;> decide
    rw [moves₁.moved.childId] at ran
    rw [both.moved.childId] at ended
    simp only [ok_bind, if_neg unplanned, if_neg undispatched, dispatched, ran, ended]

/-- The record is bound to the contract of the child and to a parent attempt. -/
structure BoundRecord (child : ChildContract) (r : FanoutManifestChild) : Prop where
  contractDigest : r.childContractDigest = child.contractDigest
  planVersion : r.planVersion ≠ none
  planDigest : r.planDigest ≠ none
  parentAttemptId : r.parentAttemptId ≠ none

omit [Sha256] in
theorem BoundRecord.moved {child : ChildContract} {a b : FanoutManifestChild}
    (bound : BoundRecord child a) (moved : Moved a b) : BoundRecord child b := by
  obtain ⟨_, _, _, fields⟩ := moved
  constructor <;> rw [fields]
  · exact bound.contractDigest
  · exact bound.planVersion
  · exact bound.planDigest
  · exact bound.parentAttemptId

/-- The manifest once the children in `done` are replayed. -/
structure Replayed (c : FanoutCoordinator) (done : List ChildContract) (m : FanoutManifest) :
    Prop where
  settled : Settled m
  semantics : m.joinSemantics = c.plan.joinSemantics
  ids : m.children.map (·.childId.value) = c.plan.children.map (·.childId.value)
  bound : ∀ r ∈ m.children, ∀ child ∈ c.plan.children, r.childId.value = child.childId.value →
    BoundRecord child r
  replayed : ∀ r ∈ m.children, ∀ child ∈ done, r.childId.value = child.childId.value →
    c.lifecycleState child.childId = .ok r.status
  waiting : ∀ r ∈ m.children, ∀ child ∈ c.plan.children, r.childId.value = child.childId.value →
    child ∉ done → r.status = .planned
  staleChildren : m.staleChildren = []
  version : m.manifestVersion ≤ 1 + (done.map (transitionsOf c)).sum

omit [Sha256] in
theorem replaced_ids {children : List FanoutManifestChild} {updated : FanoutManifestChild} :
    (replaced children updated).map (·.childId.value) = children.map (·.childId.value) := by
  unfold replaced
  rw [List.map_map, List.map_congr_left]
  intro item _
  by_cases here : item.childId = updated.childId <;> simp [here]

omit [Sha256] in
/-- A record of each child of the plan. -/
theorem record_of_child {children : List FanoutManifestChild} {plan : FanoutPlan}
    (ids : children.map (·.childId.value) = plan.children.map (·.childId.value))
    {child : ChildContract} (member : child ∈ plan.children) :
    ∃ r ∈ children, r.childId.value = child.childId.value := by
  have held : child.childId.value ∈ children.map (·.childId.value) :=
    ids ▸ List.mem_map.mpr ⟨child, member, rfl⟩
  obtain ⟨r, inChildren, same⟩ := List.mem_map.mp held
  exact ⟨r, inChildren, same⟩

theorem Replayed.next {done : List ChildContract} (h : Replayed c done m)
    (unique : (c.plan.children.map (·.childId)).Nodup) {child : ChildContract}
    (member : child ∈ c.plan.children) (fresh : child ∉ done)
    (within : ∀ other ∈ done, other ∈ c.plan.children)
    (room : 1 + ((done ++ [child]).map (transitionsOf c)).sum ≤ maxManifestVersion) :
    ∃ m', replayChild c m child = .ok m' ∧ Replayed c (done ++ [child]) m' := by
  obtain ⟨current, held, id⟩ := record_of_child h.ids member
  have planned := h.waiting current held child member id fresh
  have total : ((done ++ [child]).map (transitionsOf c)).sum =
      (done.map (transitionsOf c)).sum + transitionsOf c child := by simp
  have version := h.version
  obtain ⟨m', updated, made, moves, state⟩ := replayChild_moves h.settled (child?_mem member unique)
    held id planned (by omega)
  have theChild {other : ChildContract} (inPlan : other ∈ c.plan.children)
      (same : current.childId.value = other.childId.value) : other = child :=
    List.inj_on_of_nodup_map unique inPlan member (Ident.ext (same.symm.trans id))
  have updatedId := moves.moved.childId
  have among (r : FanoutManifestChild) (inNew : r ∈ m'.children) :
      r = updated ∨ r ∈ m.children ∧ r.childId ≠ updated.childId :=
    mem_replaced (moves.children ▸ inNew)
  refine ⟨m', made, moves.settled, moves.semantics.trans h.semantics, ?_, ?_, ?_, ?_,
    moves.staleChildren.trans h.staleChildren, ?_⟩
  · rw [moves.children, replaced_ids, h.ids]
  · intro r inNew other inPlan same
    rcases among r inNew with rfl | ⟨old, _⟩
    · have it := theChild inPlan (updatedId ▸ same)
      exact it ▸ (h.bound current held child member id).moved moves.moved
    · exact h.bound r old other inPlan same
  · intro r inNew other inDone same
    rcases among r inNew with rfl | ⟨old, apart⟩
    · have inPlan : other ∈ c.plan.children := by
        rcases List.mem_append.mp inDone with before | now
        · exact within other before
        · exact List.mem_singleton.mp now ▸ member
      exact theChild inPlan (updatedId ▸ same) ▸ state
    · rcases List.mem_append.mp inDone with before | now
      · exact h.replayed r old other before same
      · rw [List.mem_singleton.mp now, ← id] at same
        exact absurd (Ident.ext same) (updatedId ▸ apart)
  · intro r inNew other inPlan same later
    rcases among r inNew with rfl | ⟨old, _⟩
    · exact absurd (by simp [theChild inPlan (updatedId ▸ same)]) later
    · exact h.waiting r old other inPlan same fun before => later (by simp [before])
  · rw [total]
    have := moves.version
    omega

omit [Sha256] in
theorem transitionsOf_nonneg (children : List ChildContract) :
    0 ≤ (children.map (transitionsOf c)).sum := by
  apply List.sum_nonneg
  intro n member
  obtain ⟨child, _, rfl⟩ := List.mem_map.mp member
  unfold transitionsOf
  split
  · decide
  · split <;> decide

theorem Replayed.rest {done rest : List ChildContract} (h : Replayed c done m)
    (unique : (c.plan.children.map (·.childId)).Nodup)
    (whole : c.plan.children = done ++ rest)
    (room : 1 + (c.plan.children.map (transitionsOf c)).sum ≤ maxManifestVersion) :
    ∃ m', rest.foldlM (replayChild c) m = .ok m' ∧ Replayed c c.plan.children m' := by
  induction rest generalizing done m with
  | nil =>
    rw [List.append_nil] at whole
    exact ⟨m, rfl, whole ▸ h⟩
  | cons child rest ih =>
    have distinct := List.Nodup.of_map _ unique
    rw [whole, List.nodup_append] at distinct
    have fresh : child ∉ done := fun before => distinct.2.2 child before child (by simp) rfl
    have later := @transitionsOf_nonneg c rest
    have split : (c.plan.children.map (transitionsOf c)).sum =
        ((done ++ [child]).map (transitionsOf c)).sum + (rest.map (transitionsOf c)).sum := by
      rw [whole]
      simp
      omega
    obtain ⟨m', made, next⟩ := h.next unique (by simp [whole]) fresh
      (fun other before => by simp [whole, before]) (by omega)
    obtain ⟨m'', rested, final⟩ := ih next (by simp [whole])
    exact ⟨m'', by rw [List.foldlM_cons, made, ok_bind, rested], final⟩

theorem replayed_start (valid : ValidPlan c.plan)
    (listed : c.plan.children.Pairwise fun a b => a.childId.value ≤ b.childId.value)
    {attemptId : String} {options : PlanOptions} {id : Ident 256} {parent : ManifestParentIdentity}
    {records : List FanoutManifestChild}
    (parts : planParts c.plan attemptId options = .ok (id, parent, records)) :
    ∃ m, fromPlan c.plan attemptId options = .ok m ∧ Replayed c [] m := by
  obtain ⟨m, made, settled, ledger, version, semantics⟩ := fromPlan_of_listed valid listed parts
  obtain ⟨planned, _⟩ := planParts_spec parts
  have held : m.children = records := congrArg Ledger.children ledger
  have ofChild (r : FanoutManifestChild) (member : r ∈ m.children) (child : ChildContract)
      (inPlan : child ∈ c.plan.children) (same : r.childId.value = child.childId.value) :
      Planned c.plan parent child r := by
    obtain ⟨other, otherIn, spec⟩ := planned_of_mem planned (held ▸ member)
    have it : other = child := List.inj_on_of_nodup_map valid.unique otherIn inPlan
      (Ident.ext (spec.childId.symm.trans same))
    exact it ▸ spec
  refine ⟨m, made, settled, semantics, ?_, ?_, by simp, ?_, congrArg Ledger.staleChildren ledger, ?_⟩
  · rw [held, planned_ids planned]
  · intro r member child inPlan same
    have spec := ofChild r member child inPlan same
    exact ⟨spec.contractDigest, by simp [spec.planVersion], by simp [spec.planDigest],
      by simp [spec.parentAttemptId]⟩
  · exact fun r member child inPlan same _ => (ofChild r member child inPlan same).status
  · simp [version]

end Replay

/-! ## Appending the stale evidence -/

section Evidence
variable [Sha256] {m m₀ : FanoutManifest} {c : FanoutCoordinator}

/-- The record retains the evidence of a stale completion. -/
structure Retains (s : ChildCompletion) (r : FanoutManifestChild) : Prop where
  key : r.key = evidenceKey s
  resultRef : r.resultRef.map (·.value) = some s.resultRef.value
  resultDigest : r.resultDigest = some s.resultDigest

omit [Sha256] in
/-- Evidence of a bound record always makes a stale record. -/
theorem staleChild_made {child : ChildContract} {current : FanoutManifestChild} {s : ChildCompletion}
    (bound : BoundRecord child current) (id : current.childId.value = s.childId.value) :
    ∃ record, staleChildFromCompletion current s = .ok record ∧ Retains s record ∧
      record.status = .stale := by
  obtain ⟨attempt, named⟩ := staleAttempt_ident s
  obtain ⟨timed, _, _⟩ := record_sound current
  unfold staleChildFromCompletion
  rw [← named, identText_value, ok_bind]
  have orSome {α : Type} (a : Option α) {b : Option α} (given : b ≠ none) : a.or b ≠ none := by
    cases a <;> simp [given]
  rw [ofRecord_of_sound]
  · refine ⟨_, rfl, ⟨?_, rfl, rfl⟩, rfl⟩
    rw [FanoutManifestChild.key, evidenceKey, ← named, ← id]
  · unfold ChildRecord.problem
    rw [if_neg timed]
    simp only [ChildRecord.resultProblem, ChildRecord.bindingProblem, ChildLifecycle.isTerminal,
      orSome _ bound.planVersion, orSome _ bound.planDigest, orSome _ bound.parentAttemptId]
    simp

/-- The manifest once the evidence in `done` is appended. -/
structure Retained (m₀ : FanoutManifest) (done : List ChildCompletion) (m : FanoutManifest) :
    Prop where
  settled : Settled m
  semantics : m.joinSemantics = m₀.joinSemantics
  children : m.children = m₀.children
  evidence : ∀ s ∈ done, ∃ r ∈ m.staleChildren, Retains s r
  keys : ∀ r ∈ m.staleChildren, ∃ s ∈ done, r.key = evidenceKey s
  version : m.manifestVersion ≤ m₀.manifestVersion + done.length

theorem Retained.next {done : List ChildCompletion} (h : Retained m₀ done m) {s : ChildCompletion}
    {child : ChildContract} {current : FanoutManifestChild} (held : current ∈ m₀.children)
    (id : current.childId.value = s.childId.value) (bound : BoundRecord child current)
    (digest : s.childContractDigest = child.contractDigest) (evidence : s.evidenceOnly = true)
    (before : ∀ prior ∈ done, KeyBefore prior s)
    (room : m.manifestVersion + 1 ≤ maxManifestVersion) :
    ∃ m', recordCompletion m s = .ok m' ∧ Retained m₀ (done ++ [s]) m' := by
  have found : childIn m.children s.childId.value = .ok current :=
    id ▸ childIn_of_mem h.settled.unique (h.children ▸ held)
  obtain ⟨record, made, retains, status⟩ := staleChild_made bound id
  have arrival : classify current s = .ok (.stale record) := by
    have sameContract : s.childContractDigest = current.childContractDigest :=
      digest.trans bound.contractDigest.symm
    unfold classify
    simp only [ensure_of sameContract, ok_bind, evidence, if_true, made]
    rfl
  have after : ∀ r ∈ m.staleChildren, pairLe r.key record.key ∧ r.key ≠ record.key := by
    intro r member
    obtain ⟨prior, inDone, same⟩ := h.keys r member
    rw [same, retains.key]
    exact before prior inDone
  have fresh : staleWith m.staleChildren record = .ok (some (m.staleChildren ++ [record])) := by
    unfold staleWith
    rw [List.find?_eq_none.mpr]
    intro r member
    simpa using (after r member).2
  have follows := appendStale_follows h.settled status (.inr fun r member => (after r member).1)
  have ledger : (ledgerOf m).appendStale record =
      .ok { ledgerOf m with staleChildren := m.staleChildren ++ [record] } := by
    unfold Ledger.appendStale
    change staleWith m.staleChildren record >>= _ = _
    rw [fresh]
    rfl
  rw [ledger] at follows
  obtain ⟨m', appended, same, settled, semantics, version⟩ := follows.returned room
  have stale : m'.staleChildren = m.staleChildren ++ [record] := congrArg Ledger.staleChildren same
  refine ⟨m', ?_, settled, semantics.trans h.semantics,
    (congrArg Ledger.children same).trans h.children, ?_, ?_, ?_⟩
  · unfold recordCompletion FanoutManifest.child
    simp only [found, ok_bind, arrival, appended]
  · rw [stale]
    intro t member
    rcases List.mem_append.mp member with old | new
    · obtain ⟨r, inStale, keeps⟩ := h.evidence t old
      exact ⟨r, by simp [inStale], keeps⟩
    · exact ⟨record, by simp, List.mem_singleton.mp new ▸ retains⟩
  · rw [stale]
    intro r member
    rcases List.mem_append.mp member with old | new
    · obtain ⟨t, inDone, same⟩ := h.keys r old
      exact ⟨t, by simp [inDone], same⟩
    · exact ⟨s, by simp, List.mem_singleton.mp new ▸ retains.key⟩
  · have := h.version
    simp only [List.length_append, List.length_singleton]
    omega

theorem Retained.rest {done rest : List ChildCompletion} (h : Retained m₀ done m)
    (targets : ∀ s ∈ rest, s.evidenceOnly = true ∧ ∃ child, ∃ current ∈ m₀.children,
      current.childId.value = s.childId.value ∧ BoundRecord child current ∧
      s.childContractDigest = child.contractDigest)
    (ordered : (done ++ rest).Pairwise KeyBefore)
    (room : m₀.manifestVersion + (done ++ rest).length ≤ maxManifestVersion) :
    ∃ m', rest.foldlM recordCompletion m = .ok m' ∧ Retained m₀ (done ++ rest) m' := by
  induction rest generalizing done m with
  | nil => exact ⟨m, rfl, by simpa using h⟩
  | cons s rest ih =>
    obtain ⟨evidence, child, current, held, id, bound, digest⟩ := targets s (by simp)
    have before : ∀ prior ∈ done, KeyBefore prior s :=
      fun prior inDone => (List.pairwise_append.mp ordered).2.2 prior inDone s (by simp)
    have version := h.version
    simp only [List.length_append, List.length_cons] at room
    obtain ⟨m', made, next⟩ := h.next held id bound digest evidence before (by omega)
    obtain ⟨m'', rested, final⟩ := ih next (fun t member => targets t (by simp [member]))
      (by simpa using ordered) (by simp only [List.length_append, List.length_singleton]; omega)
    exact ⟨m'', by rw [List.foldlM_cons, made, ok_bind, rested], by simpa using final⟩

end Evidence

/-! ## Join -/

section Join

/-- Filtered and mapped alike, two related lists give the same list. -/
theorem filter_map_eq {α β γ : Type} {R : α → β → Prop} {p : α → Bool} {q : β → Bool} {f : α → γ}
    {g : β → γ} {as : List α} {bs : List β} (related : List.Forall₂ R as bs)
    (agree : ∀ a b, R a b → p a = q b ∧ f a = g b) : (as.filter p).map f = (bs.filter q).map g := by
  induction related with
  | nil => rfl
  | cons first _ ih =>
    obtain ⟨same, value⟩ := agree _ _ first
    rw [List.filter_cons, List.filter_cons, same]
    split
    · rw [List.map_cons, List.map_cons, value, ih]
    · exact ih

theorem lifecycle_injective {a b : CompletionStatus} (same : a.lifecycle = b.lifecycle) : a = b := by
  cases a <;> cases b <;> first | rfl | cases same

variable {m : FanoutManifest} {c : FanoutCoordinator}

/-- The record of a child and its coordinator state. -/
def InState (c : FanoutCoordinator) (r : FanoutManifestChild) (child : ChildContract) : Prop :=
  r.childId.value = child.childId.value ∧ match c.completionOf child.childId with
    | some completion => r.status = completion.lifecycle
    | none => r.status.isTerminal = false

theorem inState_of_lifecycle {r : FanoutManifestChild} {child : ChildContract}
    (id : r.childId.value = child.childId.value)
    (state : c.lifecycleState child.childId = .ok r.status) : InState c r child := by
  refine ⟨id, ?_⟩
  unfold FanoutCoordinator.lifecycleState at state
  split at state
  · cases state
  · cases completed : c.completionOf child.childId with
    | some completion =>
      rw [completed] at state
      exact (Except.ok.inj state).symm
    | none =>
      rw [completed] at state
      change r.status.isTerminal = false
      rw [← Except.ok.inj state]
      split <;> rfl

theorem completed_iff {child : ChildContract} :
    child.childId ∈ c.completions.map (·.childId) ↔ c.completionOf child.childId ≠ none := by
  unfold FanoutCoordinator.completionOf
  constructor
  · intro member absent
    obtain ⟨completion, held, same⟩ := List.mem_map.mp member
    exact Keyed.find_none absent completion held same
  · intro found
    obtain ⟨completion, found⟩ := Option.ne_none_iff_exists'.mp found
    obtain ⟨held, same⟩ := Keyed.find_some found
    exact List.mem_map.mpr ⟨completion, held, same⟩

theorem ids_sorted {children : List ChildContract}
    (listed : children.Pairwise fun a b => a.childId.value ≤ b.childId.value)
    (p : ChildContract → Bool) : ((children.filter p).map (·.childId.value)).Pairwise (· ≤ ·) := by
  rw [List.pairwise_map]
  exact listed.sublist List.filter_sublist

theorem missing_agree (listed : c.plan.children.Pairwise fun a b => a.childId.value ≤ b.childId.value)
    (states : List.Forall₂ (InState c) m.children c.plan.children) :
    m.joinDecision.missingChildIds = c.join.missingChildIds := by
  have onPlan : m.joinDecision.missingChildIds = (c.plan.children.filter
      (fun child => decide (child.childId ∉ c.completions.map (·.childId)))).map (·.childId.value) := by
    refine filter_map_eq states ?_
    rintro r child ⟨id, state⟩
    refine ⟨?_, id⟩
    rw [decide_eq_decide, completed_iff]
    cases completed : c.completionOf child.childId with
    | some completion =>
      rw [completed] at state
      have ended : completion.lifecycle.isTerminal = true := CompletionStatus.lifecycle_terminal _
      simp only at state
      simp [state, ended]
    | none =>
      rw [completed] at state
      simp only at state
      simp [state]
  have joined : c.join.missingChildIds = ((c.plan.children.filter
      (fun child => decide (child.childId ∉ c.completions.map (·.childId)))).map
        (·.childId.value)).insertionSort (· ≤ ·) := by
    unfold FanoutCoordinator.join
    dsimp only
    rw [List.filter_map, List.map_map]
    rfl
  rw [onPlan, joined, (ids_sorted listed _).insertionSort_eq]

theorem failed_agree (sound : Sound c) (unique : (c.plan.children.map (·.childId)).Nodup)
    (listed : c.plan.children.Pairwise fun a b => a.childId.value ≤ b.childId.value)
    (semantics : m.joinSemantics = c.plan.joinSemantics)
    (states : List.Forall₂ (InState c) m.children c.plan.children) :
    m.joinDecision.failedChildIds = c.join.failedChildIds := by
  let failing (completion : ChildCompletion) : Bool :=
    decide (completion.status ∉ c.plan.joinSemantics.acceptableTerminalStates)
  let failed (child : ChildContract) : Bool := (c.completionOf child.childId).any failing
  have onPlan : m.joinDecision.failedChildIds =
      (c.plan.children.filter failed).map (·.childId.value) := by
    refine filter_map_eq states ?_
    rintro r child ⟨id, state⟩
    refine ⟨?_, id⟩
    change _ = (c.completionOf child.childId).any failing
    cases completed : c.completionOf child.childId with
    | some completion =>
      rw [completed] at state
      have ended : completion.lifecycle.isTerminal = true := CompletionStatus.lifecycle_terminal _
      simp only at state
      have accepted : completion.lifecycle ∈
          c.plan.joinSemantics.acceptableTerminalStates.map (·.lifecycle) ↔
          completion.status ∈ c.plan.joinSemantics.acceptableTerminalStates := by
        constructor
        · intro member
          obtain ⟨status, held, same⟩ := List.mem_map.mp member
          exact lifecycle_injective same ▸ held
        · exact fun member => List.mem_map.mpr ⟨_, member, rfl⟩
      simp [state, ended, semantics, accepted, failing]
    | none =>
      rw [completed] at state
      simp only at state
      simp [state]
  have sameIds : ((c.plan.children.filter failed).map (·.childId.value)).Perm
      ((c.completions.filter failing).map (·.childId.value)) := by
    have left : ((c.plan.children.filter failed).map (·.childId)).Nodup :=
      unique.sublist (List.filter_sublist.map _)
    have right : ((c.completions.filter failing).map (·.childId)).Nodup :=
      sound.once.sublist (List.filter_sublist.map _)
    have both : ((c.plan.children.filter failed).map (·.childId)).Perm
        ((c.completions.filter failing).map (·.childId)) := by
      rw [List.perm_ext_iff_of_nodup left right]
      intro id
      constructor
      · intro member
        obtain ⟨child, held, same⟩ := List.mem_map.mp member
        have found := (List.mem_filter.mp held).2
        obtain ⟨completion, some, fails⟩ := Option.any_eq_true _ _ |>.mp found
        obtain ⟨inCompletions, ofChild⟩ := Keyed.find_some some
        exact List.mem_map.mpr ⟨completion, List.mem_filter.mpr ⟨inCompletions, fails⟩,
          ofChild.trans same⟩
      · intro member
        obtain ⟨completion, held, same⟩ := List.mem_map.mp member
        obtain ⟨inCompletions, fails⟩ := List.mem_filter.mp held
        obtain ⟨child, found, _⟩ := sound.completions completion inCompletions
        obtain ⟨inPlan, ofChild⟩ := child?_some found
        have some : c.completionOf child.childId = some completion :=
          ofChild ▸ Keyed.find_of_mem sound.once inCompletions
        refine List.mem_map.mpr ⟨child, List.mem_filter.mpr ⟨inPlan, ?_⟩, ofChild.trans same⟩
        change (c.completionOf child.childId).any failing = true
        rw [some]
        exact fails
    have mapped := both.map (·.value)
    rw [List.map_map, List.map_map] at mapped
    exact mapped
  have joined : c.join.failedChildIds =
      ((c.completions.filter failing).map (·.childId.value)).insertionSort (· ≤ ·) := rfl
  rw [onPlan, joined]
  exact List.Perm.eq_of_pairwise' (ids_sorted listed _) (List.pairwise_insertionSort _ _)
    (sameIds.trans (List.perm_insertionSort _ _).symm)

end Join

/-! ## The projection -/

section Projection
variable [Sha256]

/-- The manifest shows the coordinator: states, join and evidence. -/
structure Projects (c : FanoutCoordinator) (m : FanoutManifest) : Prop where
  ids : m.children.map (·.childId.value) = c.plan.children.map (·.childId.value)
  states : ∀ child ∈ c.plan.children, ∃ r, m.child child.childId.value = .ok r ∧
    c.lifecycleState child.childId = .ok r.status
  status : m.joinDecision.status = c.join.status
  missing : m.joinDecision.missingChildIds = c.join.missingChildIds
  failed : m.joinDecision.failedChildIds = c.join.failedChildIds
  evidence : ∀ s ∈ c.staleCompletions, ∃ r ∈ m.staleChildren, Retains s r

theorem projection_of_sound {c : FanoutCoordinator} (sound : Sound c) (valid : ValidPlan c.plan)
    {attempt : Ident 128} (bound : c.parentAttemptId = some attempt) (fits : Projectable c attempt) :
    ∃ m, fromCoordinator c = .ok m ∧ Projects c m := by
  obtain ⟨options, id, parent, records, selected, parts⟩ := start_checked sound valid bound fits.toTextsFit
  obtain ⟨m₀, first, start⟩ := replayed_start valid fits.listed parts
  have room := fits.room
  obtain ⟨m₁, replay, replayed⟩ := start.rest valid.unique
    (show c.plan.children = [] ++ c.plan.children from rfl) (by omega)
  have version := replayed.version
  have kept : Retained m₁ [] m₁ :=
    ⟨replayed.settled, rfl, rfl, by simp, by simp [replayed.staleChildren], by simp⟩
  have targets : ∀ s ∈ c.staleCompletions, s.evidenceOnly = true ∧ ∃ child, ∃ current ∈ m₁.children,
      current.childId.value = s.childId.value ∧ BoundRecord child current ∧
      s.childContractDigest = child.contractDigest := by
    intro s member
    obtain ⟨⟨child, found, digest⟩, evidence⟩ := sound.evidence s member
    obtain ⟨inPlan, ofChild⟩ := child?_some found
    obtain ⟨current, held, same⟩ := record_of_child replayed.ids inPlan
    exact ⟨evidence, child, current, held, ofChild ▸ same,
      replayed.bound current held child inPlan same, digest⟩
  obtain ⟨m, append, retained⟩ := kept.rest targets (by simpa using fits.evidence)
    (by simp only [List.nil_append]; omega)
  have made : fromCoordinator c = .ok m := by
    unfold fromCoordinator
    simp only [selected, ok_bind, first, replay, append]
  have ids := (congrArg (List.map (·.childId.value)) retained.children).trans replayed.ids
  have lifecycle : ∀ r ∈ m.children, ∀ child ∈ c.plan.children,
      r.childId.value = child.childId.value → c.lifecycleState child.childId = .ok r.status :=
    fun r member => replayed.replayed r (retained.children ▸ member)
  have states : List.Forall₂ (InState c) m.children c.plan.children := by
    have pairs : List.Forall₂ (fun r child => r.childId.value = child.childId.value)
        m.children c.plan.children := by
      have same := List.forall₂_eq_eq_eq ▸ ids
      rwa [List.forall₂_map_left_iff, List.forall₂_map_right_iff] at same
    refine (List.forall₂_iff_zip.mpr ⟨pairs.length_eq, ?_⟩)
    intro r child member
    have same := (List.forall₂_iff_zip.mp pairs).2 member
    exact inState_of_lifecycle same
      (lifecycle r (List.of_mem_zip member).1 child (List.of_mem_zip member).2 same)
  have semantics := retained.semantics.trans replayed.semantics
  have missing := missing_agree fits.listed states
  have failed := failed_agree sound valid.unique fits.listed semantics states
  refine ⟨m, made, ids, ?_, ?_, missing, failed, retained.evidence⟩
  · intro child inPlan
    obtain ⟨r, held, same⟩ := record_of_child ids inPlan
    refine ⟨r, ?_, lifecycle r held child inPlan same⟩
    exact same ▸ childIn_of_mem retained.settled.unique held
  · change FanoutCoordinator.joinStatus m.joinDecision.failedChildIds m.joinDecision.missingChildIds = _
    rw [missing, failed]
    rfl

/-- Whatever a coordinator was told, once it is bound to a parent attempt and its
evidence is in the key order of the manifest, its manifest shows it. -/
theorem coordinator_projected {parent : ParentContract} {children : List ChildContract}
    {mode : FanoutMode} {maxParallel : Option Nat} {stages : Option (List (List String))}
    {joinPolicy : JoinPolicy} {plan : FanoutPlan}
    (planned : FanoutPlan.fromParent parent children mode maxParallel stages joinPolicy = .ok plan)
    {parentAttemptId : Option (Ident 128)} {lease : Option Nat} {attempts : AttemptIds}
    {c : FanoutCoordinator}
    (started : FanoutCoordinator.fromPlan plan parentAttemptId lease attempts = .ok c)
    (operations : List CoordinatorHistory.Operation) {attempt : Ident 128}
    (bound : (run CoordinatorHistory.step c operations).parentAttemptId = some attempt)
    (fits : Projectable (run CoordinatorHistory.step c operations) attempt) :
    ∃ m, fromCoordinator (run CoordinatorHistory.step c operations) = .ok m ∧
      Projects (run CoordinatorHistory.step c operations) m := by
  obtain ⟨samePlan, sound⟩ := history_sound started operations
  exact projection_of_sound sound (samePlan ▸ fromParent_valid planned) bound fits

end Projection

/-- A late report of `api` that names no attempt. -/
def lateReport : ChildCompletion where
  childId := api.childId
  childContractDigest := api.contractDigest
  status := .stale
  resultRef := ⟨"late", by decide, by decide, by decide, by decide⟩
  resultDigest := Digest.ofNat 6
  evidenceOnly := true

theorem attempt_identifier : isIdentifier "attempt-1" := by decide
theorem attempt_bounded : utf8Bytes "attempt-1" ≤ 128 := by decide

def boundAttempt : Ident 128 := ⟨"attempt-1", attempt_identifier, attempt_bounded⟩

theorem review_textsFit {c : FanoutCoordinator}
    (children : c.plan.children = [api, web] ∨ c.plan.children = [web, api])
    (names : c.plan.runId = reviewParent.runId ∧ c.plan.nodeId = reviewParent.nodeId ∧
      c.plan.planVersion = reviewParent.planVersion) : TextsFit c boundAttempt := by
  refine ⟨?_, ?_⟩
  · unfold selectedId
    simp only [names, Option.filter_none]
    decide
  · intro child member _
    have either : child = api ∨ child = web := by
      rcases children with same | same <;> rw [same] at member <;> simp at member
      · exact member
      · exact member.symm
    rcases either with rfl | rfl <;> decide

theorem transitionsOf_le (c : FanoutCoordinator) (child : ChildContract) : transitionsOf c child ≤ 3 := by
  unfold transitionsOf
  split
  · exact le_refl _
  · split <;> decide

theorem late_retained {plan : FanoutPlan} (known : plan.child? lateReport.childId = some api) :
    run step { plan := plan, parentAttemptId := some boundAttempt, leaseGeneration := some 1 }
      [.complete lateReport] = { plan := plan, parentAttemptId := some boundAttempt
                                 leaseGeneration := some 1, staleCompletions := [lateReport] } := by
  have checked : FanoutCoordinator.checkStale plan lateReport = .ok () := by
    unfold FanoutCoordinator.checkStale
    rw [known]
    rfl
  have recorded : FanoutCoordinator.recordStale { plan := plan, parentAttemptId := some boundAttempt
                                                  leaseGeneration := some 1 } lateReport =
      .ok { plan := plan, parentAttemptId := some boundAttempt, leaseGeneration := some 1
            staleCompletions := [lateReport] } := by
    change FanoutCoordinator.make plan [] (some boundAttempt) (some 1) [] [lateReport] = _
    unfold FanoutCoordinator.make FanoutCoordinator.collectStale
    rw [checked]
    rfl
  have completed : FanoutCoordinator.complete { plan := plan, parentAttemptId := some boundAttempt
                                                leaseGeneration := some 1 } lateReport =
      FanoutCoordinator.recordStale { plan := plan, parentAttemptId := some boundAttempt
                                      leaseGeneration := some 1 } lateReport := by
    unfold FanoutCoordinator.complete
    dsimp only
    rw [known]
    dsimp only
    rw [if_neg (not_not.mpr (show lateReport.childContractDigest = api.contractDigest from rfl)),
      if_pos (show lateReport.evidenceOnly = true from rfl)]
  rw [run_cons, run_nil]
  unfold step CoordinatorHistory.Operation.apply
  dsimp only
  rw [completed, recorded]

/-- The review plan in child order, with a late report of `api`. -/
theorem coordinator_projected_late :
    ∃ plan c m, @FanoutPlan.fromParent firstChildHash reviewParent [api, web] .parallel none none
        .allRequired = .ok plan ∧
      FanoutCoordinator.fromPlan plan (some boundAttempt) (some 1) [] = .ok c ∧
      (run step c [.complete lateReport]).staleCompletions = [lateReport] ∧
      @fromCoordinator firstChildHash (run step c [.complete lateReport]) {} = .ok m ∧
      Projects (run step c [.complete lateReport]) m := by
  obtain ⟨plan, made, children, names⟩ := @reviewPlan_made firstChildHash _ (.inl rfl)
  have started : FanoutCoordinator.fromPlan plan (some boundAttempt) (some 1) [] =
      .ok { plan := plan, parentAttemptId := some boundAttempt, leaseGeneration := some 1 } := rfl
  have known : plan.child? lateReport.childId = some api := by
    unfold FanoutPlan.child?
    rw [children]
    exact List.find?_cons_of_pos (decide_eq_true rfl)
  have reached := late_retained known
  have fits : Projectable (run step { plan := plan, parentAttemptId := some boundAttempt
                                      leaseGeneration := some 1 } [.complete lateReport])
      boundAttempt := by
    rw [reached]
    refine ⟨review_textsFit (.inl children) names, ?_, List.pairwise_singleton _ _, ?_⟩
    · change plan.children.Pairwise _
      rw [children]
      decide
    · generalize late : ({ plan := plan, parentAttemptId := some boundAttempt, leaseGeneration := some 1
                           staleCompletions := [lateReport] } : FanoutCoordinator) = c
      have two : c.plan.children = [api, web] := by rw [← late, children]
      have one : c.staleCompletions.length = 1 := by rw [← late]; rfl
      have ofApi := transitionsOf_le c api
      have ofWeb := transitionsOf_le c web
      rw [two, one]
      simp only [List.map_cons, List.map_nil, List.sum_cons, List.sum_nil]
      exact le_trans (show _ ≤ (8 : Int) by omega) (by decide)
  obtain ⟨m, projected, shows⟩ := @coordinator_projected firstChildHash _ _ _ _ _ _ _ made _ _ _ _
    started [.complete lateReport] boundAttempt (by rw [reached]) fits
  exact ⟨plan, _, m, made, started, by rw [reached], projected, shows⟩

/-- The coordinator of a plan whose second child comes first has no manifest. -/
theorem reversed_coordinator_unprojected :
    ∃ plan c, @FanoutPlan.fromParent firstChildHash reviewParent [web, api] .parallel none none
        .allRequired = .ok plan ∧
      FanoutCoordinator.fromPlan plan (some boundAttempt) (some 1) [] = .ok c ∧
      c.parentAttemptId = some boundAttempt ∧
      @fromCoordinator firstChildHash c {} =
        .error ⟨.digestMismatch, "manifest_digest does not match canonical manifest bytes"⟩ := by
  obtain ⟨plan, made, children, names⟩ := @reviewPlan_made firstChildHash _ (.inr rfl)
  have started : FanoutCoordinator.fromPlan plan (some boundAttempt) (some 1) [] =
      .ok { plan := plan, parentAttemptId := some boundAttempt, leaseGeneration := some 1 } := rfl
  have valid := @fromParent_valid firstChildHash _ _ _ _ _ _ _ made
  obtain ⟨options, id, parent, records, selected, parts⟩ :=
    start_checked (make_sound started).2 valid rfl (review_textsFit (.inr children) names)
  refine ⟨plan, _, made, started, rfl, ?_⟩
  unfold fromCoordinator
  rw [selected, ok_bind]
  dsimp only
  rw [reversed_refused valid children parts]
  rfl

end DwSuperApps.Guarantees.CoordinatorProjection
