import DwSuperApps.Source.Journal

/-!
# Checkpoint and recovery

`taskcontroller/runtime/checkpoint.py` and `recover_from_checkpoint` of
`runtime/journal.py`: a snapshot of one run with the sidecars of the store merged
into it, and its restoration followed by the replay of a journal tail.
-/
namespace DwSuperApps.Source.Runtime

open DwSuperApps.Lib DwSuperApps.Lib.Checked

/-! ## Checkpoints -/

structure CheckpointSnapshot where
  runId : Identifier
  state : TeamRunState
  version : Int
  metadata : RuntimeSnapshotMeta

/-- `key.startswith("stream:")`. -/
def isStreamKey (key : String) : Bool := "stream:".toList.isPrefixOf key.toList

/-- The fingerprints of the run with those of the store over them. -/
def mergedFingerprints (recorded dedupe : Dict String DedupeEntry) : Dict String DedupeEntry :=
  recorded.update (dedupe.entries.filter fun entry => isStreamKey entry.1 = false)

/-- `build_checkpoint_snapshot`. -/
def buildCheckpointSnapshot (s : Store) (runId : String) : Except Raised CheckpointSnapshot :=
  match s.runs.get? runId with
  | none => .error ⟨.keyError, s!"run {runId} not found in store"⟩
  | some rs => do
    let watermarks ← collectWatermarks rs.metadata.streamWatermarks s.dedupe
    return {
      runId := rs.state.runId
      state := rs.state
      version := rs.version
      metadata := { rs.metadata with
        streamWatermarks := watermarks
        dedupeFingerprints := mergedFingerprints rs.metadata.dedupeFingerprints s.dedupe
        journalPosition := (s.journal runId).lastRecordIndex } }

/-! ## Restoration -/

/-- `InMemoryStateStore.restore`: nothing of the store before is kept. -/
def Store.restore (_ : Store) (snapshot : SnapshotRecord) : Store := snapshot

/-- The dedupe dictionary rebuilt from the sidecars of a run, watermarks last. -/
def rebuiltDedupe (metadata : RuntimeSnapshotMeta) : Dict String DedupeEntry :=
  (({} : Dict String DedupeEntry).update metadata.dedupeFingerprints.entries).update
    (metadata.streamWatermarks.entries.map fun entry =>
      (streamKey entry.1.1 entry.1.2, .stream entry.2))

/-- The run a checkpoint restores. -/
def CheckpointSnapshot.restored (snap : CheckpointSnapshot) : VersionedRunState :=
  ⟨snap.state, snap.version, snap.metadata⟩

/-- `restore_from_checkpoint`. -/
def restoreFromCheckpoint (target : Store) (snap : CheckpointSnapshot) : Store :=
  target.restore {
    runs := ({} : Dict String VersionedRunState).set snap.runId snap.restored
    journals := {}
    dedupe := rebuiltDedupe snap.metadata }

/-! ## Recovery -/

/-- The put of the reconstructed run; a refused one is forced. -/
def commitReconstructed (target : Store) (runId : String) (base reconstructed : VersionedRunState) :
    Store :=
  match target.putRun reconstructed base.version with
  | (.ok _, committed) => committed
  | (.error _, _) => target.restore {
      runs := ({} : Dict String VersionedRunState).set runId reconstructed
      journals := target.journals
      dedupe := target.dedupe }

/-- `_rebuild_target_dedupe`. -/
def rebuildTargetDedupe (target : Store) (runId : String) : Store :=
  match target.runs.get? runId with
  | none => target
  | some rs => target.restore { target with dedupe := rebuiltDedupe rs.metadata }

/-- What `recover_from_checkpoint` does with a checkpoint and the records of the
journal tail. -/
def recoverSnapshot (target : Store) (snap : CheckpointSnapshot) (runId : String) (replay : Bool)
    (tail : List RuntimeRecord) : Except Raised (Option VersionedRunState) × Store :=
  let restored := restoreFromCheckpoint target snap
  match restored.runs.get? runId with
  | none => (.ok none, restored)
  | some base =>
    if replay = false then (.ok (some base), restored)
    else
      match replayRecords base (sortRecords tail) with
      | .error e => (.error e, restored)
      | .ok reconstructed =>
        let rebuilt := rebuildTargetDedupe (commitReconstructed restored runId base reconstructed) runId
        (.ok (rebuilt.runs.get? runId), rebuilt)

/-- `target`: a store of its own by default, or another one, or the source. -/
inductive RecoveryTarget where
  | fresh
  | other (store : Store)
  | source

def RecoveryTarget.store (source : Store) : RecoveryTarget → Store
  | .fresh => {}
  | .other store => store
  | .source => source

/-- The journal the tail is read from, after the checkpoint was restored. -/
def RecoveryTarget.journal (source restored : Store) (runId : String) : RecoveryTarget → Journal
  | .fresh | .other _ => source.journal runId
  | .source => restored.journal runId

/-- `recover_from_checkpoint`: what it returns or raises and the target it leaves. -/
def recoverFromCheckpoint (source : Store) (runId : String) (target : RecoveryTarget)
    (replay : Bool := true) : Except Raised (Option VersionedRunState) × Store :=
  let before := target.store source
  match buildCheckpointSnapshot source runId with
  | .error e => if e.kind = .keyError then (.ok none, before) else (.error e, before)
  | .ok snap =>
    let restored := restoreFromCheckpoint before snap
    recoverSnapshot before snap runId replay
      ((target.journal source restored runId).since snap.metadata.journalPosition)

end DwSuperApps.Source.Runtime
