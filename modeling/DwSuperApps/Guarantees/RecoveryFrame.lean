import DwSuperApps.Guarantees.LeaseHolding
import DwSuperApps.Guarantees.RoutedEvents
import DwSuperApps.Source.Checkpoint

/-!
# What a recovery leaves alone

`restore_from_checkpoint` replaces the whole target by the one run of the
checkpoint. So other runs, the journal of the recovered run and the index its next
record gets survive only where there was nothing to lose.
-/
namespace DwSuperApps.Guarantees.RecoveryFrame

open DwSuperApps.Lib DwSuperApps.Lib.Checked
open DwSuperApps.Source.Runtime
open DwSuperApps.Guarantees.LeaseHolding DwSuperApps.Guarantees.RoutedEvents

/-! ## Replay keeps the run -/

theorem replayToRun_run (state : TeamRunState) (event : AgentEvent) :
    (replayToRun state event).runId = state.runId := by
  unfold replayToRun
  split
  · split <;> rfl
  · split
    · split
      · rfl
      · split <;> rfl
    · rfl
  · rfl

theorem applyRuntimeRecord_run {st st' : Replay} {record : RuntimeRecord}
    (applied : applyRuntimeRecord st record = .ok st') :
    st'.state.state.runId = st.state.state.runId := by
  unfold applyRuntimeRecord at applied
  split at applied
  · cases applied
    exact replayToRun_run ..
  · next p _ =>
    have granted (done : applyGrantRecord st p record.recordIndex = .ok st') :
        st'.state.state.runId = st.state.state.runId := by
      unfold applyGrantRecord at done
      obtain ⟨lease, -, done⟩ := bind_ok.mp done
      simp only at done
      split at done
      · cases done
      · cases done
        rfl
    unfold applyLeaseRecord at applied
    split at applied
    · exact granted applied
    · exact granted applied
    all_goals
      cases applied
      rfl
  · cases applied
    rfl

theorem replayRecords_run {base final : VersionedRunState} {records : List RuntimeRecord}
    (done : replayRecords base records = .ok final) : final.state.runId = base.state.runId := by
  have fold (records : List RuntimeRecord) (st st' : Replay)
      (applied : records.foldlM applyRuntimeRecord st = .ok st') :
      st'.state.state.runId = st.state.state.runId := by
    induction records generalizing st with
    | nil =>
      cases applied
      rfl
    | cons record rest ih =>
      rw [List.foldlM_cons] at applied
      obtain ⟨next, first, later⟩ := bind_ok.mp applied
      exact (ih next later).trans (applyRuntimeRecord_run first)
  obtain ⟨st, applied, same⟩ := bind_ok.mp done
  cases same
  exact fold _ _ _ applied

/-! ## The recovered store -/

/-- A checkpoint of the run, as `build_checkpoint_snapshot` takes one. -/
structure CheckpointOf (snap : CheckpointSnapshot) (runId : String) : Prop where
  names : snap.runId.text = runId
  own : snap.state.runId = snap.runId
  position : -1 ≤ snap.metadata.journalPosition

theorem checkpoint_of {origin : Store} (keyed : StoreKeyed origin) {runId : String}
    {snap : CheckpointSnapshot} (built : buildCheckpointSnapshot origin runId = .ok snap) :
    CheckpointOf snap runId := by
  unfold buildCheckpointSnapshot at built
  split at built
  · cases built
  · next rs held =>
    obtain ⟨watermarks, -, same⟩ := bind_ok.mp built
    cases same
    refine ⟨keyed.run _ rs held, rfl, ?_⟩
    change -1 ≤ (origin.journal runId).lastRecordIndex
    rw [Journal.lastRecordIndex_eq]
    omega

/-- A store that holds nothing but a recovered run. -/
def onlyRun (runId : String) (v : VersionedRunState) : Store where
  runs := ({} : Dict String VersionedRunState).set runId v
  journals := {}
  dedupe := rebuiltDedupe v.metadata

section Recovery
variable {snap : CheckpointSnapshot} {runId : String} (target : Store) (tail : List RuntimeRecord)

theorem restore_only (checkpoint : CheckpointOf snap runId) :
    restoreFromCheckpoint target snap = onlyRun runId snap.restored := by
  unfold restoreFromCheckpoint
  rw [checkpoint.names]
  rfl

theorem recoverSnapshot_error (checkpoint : CheckpointOf snap runId) {e : Raised}
    (failed : replayRecords snap.restored (sortRecords tail) = .error e) :
    recoverSnapshot target snap runId true tail = (.error e, onlyRun runId snap.restored) := by
  unfold recoverSnapshot
  rw [restore_only target checkpoint]
  have held : (onlyRun runId snap.restored).runs.get? runId = some snap.restored :=
    Dict.get?_set_self ..
  simp only [held, failed, Bool.true_eq_false, if_false]

theorem recoverSnapshot_ok (checkpoint : CheckpointOf snap runId) {final : VersionedRunState}
    (replayed : replayRecords snap.restored (sortRecords tail) = .ok final) :
    recoverSnapshot target snap runId true tail = (.ok (some final), onlyRun runId final) := by
  have own : final.state.runId.text = runId := by
    rw [replayRecords_run replayed]
    exact (congrArg Identifier.text checkpoint.own).trans checkpoint.names
  have held : (onlyRun runId snap.restored).runs.get? runId = some snap.restored :=
    Dict.get?_set_self ..
  have version : (onlyRun runId snap.restored).versionOf final.state.runId =
      snap.restored.version := by
    unfold Store.versionOf
    rw [own, held]
    rfl
  have committed : commitReconstructed (onlyRun runId snap.restored) runId snap.restored final =
      { onlyRun runId snap.restored with
        runs := ({} : Dict String VersionedRunState).set runId final } := by
    unfold commitReconstructed
    rw [putRun_matching version, own]
    simp only [onlyRun, Dict.set_set]
  have stored : ({ onlyRun runId snap.restored with
      runs := ({} : Dict String VersionedRunState).set runId final } : Store).runs.get? runId =
      some final := Dict.get?_set_self ..
  unfold recoverSnapshot
  rw [restore_only target checkpoint]
  simp only [held, replayed, Bool.true_eq_false, if_false]
  rw [committed]
  unfold rebuildTargetDedupe
  rw [stored]
  exact Prod.ext (congrArg Except.ok stored) rfl

end Recovery

/-! ## The frame -/

/-- The entry is one of the run: it names the run, or a stream of a registered
attempt of it. -/
def BelongsTo (v : VersionedRunState) : DedupeEntry → Prop
  | .event fingerprint => Json.get fingerprint "run_id" = .str v.state.runId
  | .stream watermark => ∃ attempt, v.metadata.attemptRegistry.get? watermark.attemptId = some attempt ∧
      attempt.executionId = watermark.executionId
  | .command fingerprint _ => fingerprint.runId = v.state.runId

/-- A recovery of `runId` whose last recovered record has index `last` leaves the
other runs and the records of its own run, and the next record follows. -/
structure Framed (before : Store) (runId : String) (last : Int)
    (out : Except Raised (Option VersionedRunState) × Store) : Prop where
  others : ∀ r v, r ≠ runId → before.runs.get? r = some v →
    out.2.runs.get? r = some v ∧ out.2.journal r = before.journal r ∧
      ∀ key entry, before.dedupe.get? key = some entry → BelongsTo v entry →
        out.2.dedupe.get? key = some entry
  own : (before.journal runId).records <+: (out.2.journal runId).records
  next : ∀ v, out.1 = .ok (some v) → ((out.2.journal runId).records.length : Int) = last + 1

/-- The target holds no other run and no record of the run. -/
def Untouched (target : Store) (runId : String) : Prop :=
  (∀ r, r ≠ runId → target.runs.get? r = none) ∧ (target.journal runId).records = []

/-- The greatest index of the checkpoint and the tail. -/
def lastRecovered (snap : CheckpointSnapshot) (tail : List RuntimeRecord) : Int :=
  (tail.map (·.recordIndex)).foldl max snap.metadata.journalPosition

theorem le_foldl_max (l : List Int) (a : Int) : a ≤ l.foldl max a ∧ ∀ i ∈ l, i ≤ l.foldl max a := by
  induction l generalizing a with
  | nil => exact ⟨le_refl a, fun i member => absurd member List.not_mem_nil⟩
  | cons first rest ih =>
    obtain ⟨above, all⟩ := ih (max a first)
    refine ⟨(le_max_left a first).trans above, ?_⟩
    intro i member
    rcases List.mem_cons.mp member with rfl | later
    · exact (le_max_right a i).trans above
    · exact all i later

/-- A recovered record has an index of 0 or more. -/
theorem lastRecovered_eq_neg_one_iff {snap : CheckpointSnapshot} {runId : String}
    (checkpoint : CheckpointOf snap runId) (j : Journal) :
    lastRecovered snap (j.since snap.metadata.journalPosition) = -1 ↔
      snap.metadata.journalPosition = -1 ∧ j.since snap.metadata.journalPosition = [] := by
  have position := checkpoint.position
  obtain ⟨above, all⟩ := le_foldl_max
    ((j.since snap.metadata.journalPosition).map (·.recordIndex)) snap.metadata.journalPosition
  constructor
  · intro none
    change _ ≤ lastRecovered snap _ at above
    refine ⟨by omega, List.eq_nil_iff_forall_not_mem.mpr fun record member => ?_⟩
    have later : snap.metadata.journalPosition < record.recordIndex :=
      of_decide_eq_true (List.mem_filter.mp member).2
    have bound : record.recordIndex ≤ lastRecovered snap _ :=
      all _ (List.mem_map.mpr ⟨record, member, rfl⟩)
    omega
  · rintro ⟨start, empty⟩
    unfold lastRecovered
    rw [empty, start]
    rfl

/-- A store that only holds the recovered run frames what an untouched target had. -/
theorem onlyRun_framed_iff {target : Store} {runId : String} {last : Int} {v : VersionedRunState}
    {out : Except Raised (Option VersionedRunState)} :
    Framed target runId last (out, onlyRun runId v) ↔
      Untouched target runId ∧ ((∃ v, out = .ok (some v)) → last = -1) := by
  have journal : ((onlyRun runId v).journal runId).records = [] := rfl
  have absent (r : String) (other : r ≠ runId) : (onlyRun runId v).runs.get? r = none :=
    Dict.get?_set_of_ne _ other _
  constructor
  · intro framed
    refine ⟨⟨?_, ?_⟩, ?_⟩
    · intro r other
      by_contra present
      obtain ⟨w, held⟩ := Option.ne_none_iff_exists'.mp present
      have kept := (framed.others r w other held).1
      rw [absent r other] at kept
      cases kept
    · exact List.prefix_nil.mp (journal ▸ framed.own)
    · rintro ⟨w, recovered⟩
      have next : (0 : Int) = last + 1 := framed.next w recovered
      omega
  · rintro ⟨⟨alone, empty⟩, next⟩
    refine ⟨?_, ?_, ?_⟩
    · intro r w other held
      rw [alone r other] at held
      cases held
    · rw [empty]
      exact List.nil_prefix
    · intro w recovered
      rw [next ⟨w, recovered⟩]
      rfl

theorem snapshot_framed_iff {snap : CheckpointSnapshot} {runId : String}
    (checkpoint : CheckpointOf snap runId) (target : Store) (j : Journal) :
    Framed target runId (lastRecovered snap (j.since snap.metadata.journalPosition))
        (recoverSnapshot target snap runId true (j.since snap.metadata.journalPosition)) ↔
      Untouched target runId ∧
        ∀ final, replayRecords snap.restored (sortRecords (j.since snap.metadata.journalPosition)) =
            .ok final →
          snap.metadata.journalPosition = -1 ∧ j.since snap.metadata.journalPosition = [] := by
  cases replayed : replayRecords snap.restored
      (sortRecords (j.since snap.metadata.journalPosition)) with
  | error e =>
    rw [recoverSnapshot_error target _ checkpoint replayed, onlyRun_framed_iff]
    refine and_congr_right fun _ => ?_
    constructor
    · intro _ final other
      cases other
    · rintro - ⟨v, other⟩
      cases other
  | ok final =>
    rw [recoverSnapshot_ok target _ checkpoint replayed, onlyRun_framed_iff]
    refine and_congr_right fun _ => ?_
    rw [← lastRecovered_eq_neg_one_iff checkpoint]
    constructor
    · intro next _ _
      exact next ⟨final, rfl⟩
    · intro start _
      exact start final rfl

/-- A run that was never journaled is recovered from nothing. -/
theorem since_last (j : Journal) : j.since j.lastRecordIndex = [] := by
  rw [Journal.lastRecordIndex_eq, Journal.since_eq_drop, List.drop_length]

theorem since_empty (position : Int) : ({} : Journal).since position = [] := rfl

theorem recoverFromCheckpoint_framed_iff {source : Store} (keyed : StoreKeyed source) {runId : String}
    {snap : CheckpointSnapshot} (built : buildCheckpointSnapshot source runId = .ok snap)
    (target : RecoveryTarget) :
    Framed (target.store source) runId (source.journal runId).lastRecordIndex
        (recoverFromCheckpoint source runId target) ↔
      Untouched (target.store source) runId ∧ (source.journal runId).records = [] := by
  have checkpoint := checkpoint_of keyed built
  have position : snap.metadata.journalPosition = (source.journal runId).lastRecordIndex := by
    unfold buildCheckpointSnapshot at built
    split at built
    · cases built
    · obtain ⟨watermarks, -, same⟩ := bind_ok.mp built
      cases same
      rfl
  obtain ⟨j, read, since⟩ : ∃ j : Journal,
      (target.journal source (restoreFromCheckpoint (target.store source) snap) runId) = j ∧
        j.since snap.metadata.journalPosition = [] := by
    refine ⟨_, rfl, ?_⟩
    rw [position]
    cases target with
    | fresh => exact since_last _
    | other store => exact since_last _
    | source =>
      rw [restore_only _ checkpoint]
      exact since_empty _
  have framed := snapshot_framed_iff checkpoint (target.store source) j
  rw [since] at framed
  have recovery : recoverFromCheckpoint source runId target =
      recoverSnapshot (target.store source) snap runId true [] := by
    unfold recoverFromCheckpoint
    rw [built]
    simp only
    rw [read, since]
  rw [recovery, ← position]
  change Framed _ _ (lastRecovered snap []) _ ↔ _
  rw [framed]
  refine and_congr_right fun _ => ?_
  have length := Journal.lastRecordIndex_eq (source.journal runId)
  rw [position]
  constructor
  · intro all
    have start := (all snap.restored rfl).1
    exact List.length_eq_zero_iff.mp (by omega)
  · intro empty _ _
    rw [empty] at length
    exact ⟨length, rfl⟩

/-- A recovery keeps the other runs, the records of its own and the order of the
indices exactly where the target has none of the first two and nothing journaled is
recovered. -/
theorem recovery_framed_iff (origin : Store) (keyed : StoreKeyed origin) (runId : String)
    (snap : CheckpointSnapshot) (built : buildCheckpointSnapshot origin runId = .ok snap) :
    (∀ (target : Store) (j : Journal),
      Framed target runId (lastRecovered snap (j.since snap.metadata.journalPosition))
          (recoverSnapshot target snap runId true (j.since snap.metadata.journalPosition)) ↔
        Untouched target runId ∧
          ∀ final, replayRecords snap.restored (sortRecords (j.since snap.metadata.journalPosition)) =
              .ok final →
            snap.metadata.journalPosition = -1 ∧ j.since snap.metadata.journalPosition = []) ∧
      ∀ target : RecoveryTarget,
        Framed (target.store origin) runId (origin.journal runId).lastRecordIndex
            (recoverFromCheckpoint origin runId target) ↔
          Untouched (target.store origin) runId ∧ (origin.journal runId).records = [] :=
  ⟨snapshot_framed_iff (checkpoint_of keyed built),
    fun target => recoverFromCheckpoint_framed_iff keyed built target⟩

/-! ## Recoveries of the seeded run -/

def seededSnapshot : CheckpointSnapshot where
  runId := seededRun.state.runId
  state := seededRun.state
  version := seededRun.version
  metadata := { seededRun.metadata with journalPosition := -1 }

/-- The seeded run, never journaled, into a store of its own. -/
theorem recovery_framed_fresh :
    Framed {} "run.1" (seededStore.journal "run.1").lastRecordIndex
      (recoverFromCheckpoint seededStore "run.1" .fresh) :=
  ((recovery_framed_iff seededStore seeded_keyed "run.1" seededSnapshot rfl).2 .fresh).mpr
    ⟨⟨fun _ _ => rfl, rfl⟩, rfl⟩

theorem run2_identifier : matchesId "run.2" := by decide

def secondRun : VersionedRunState where
  state := { runId := ⟨"run.2", run2_identifier⟩, status := .running }
  version := 1
  metadata := { journalPosition := -1 }

def twoRuns : Store where
  runs := ⟨[("run.1", seededRun), ("run.2", secondRun)], by simp⟩

/-- Recovering run.1 into the store it is in loses run.2. -/
theorem other_run_lost :
    buildCheckpointSnapshot twoRuns "run.1" = .ok seededSnapshot ∧
      ¬ Framed twoRuns "run.1" (twoRuns.journal "run.1").lastRecordIndex
        (recoverFromCheckpoint twoRuns "run.1" .source) := by
  refine ⟨rfl, fun framed => ?_⟩
  have kept := (framed.others "run.2" secondRun (by decide) rfl).1
  have lost : (recoverFromCheckpoint twoRuns "run.1" .source).2.runs.get? "run.2" = none := rfl
  rw [lost] at kept
  cases kept

end DwSuperApps.Guarantees.RecoveryFrame
