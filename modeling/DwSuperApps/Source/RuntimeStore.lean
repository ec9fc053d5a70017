import DwSuperApps.Lib.Programs
import DwSuperApps.Source.RuntimeState

/-!
# Runtime store

`taskcontroller/runtime/store.py`, the in-memory store: the runs under
compare-and-swap, one append-only journal per run and one flat dedupe dictionary
for all of them. Values are never aliased here, as the deep copies of the source
provide. Each method is one atomic operation of a program.
-/
namespace DwSuperApps.Source.Runtime

open DwSuperApps.Lib
open DwSuperApps.Lib.Programs (Prog)

/-! ## Journal records -/

inductive LeaseOp where
  | grant | replace | release | revoke | renew | expire | detach
  deriving DecidableEq

/-- Payload of a lease record; a key that is not in the dictionary is `none`. -/
structure LeaseRecord where
  op : LeaseOp
  leaseId : String
  version : Int
  fencingToken : Option String := none
  currentLeaseId : Option String := none
  expiresAt : Option String := none
  nodeStatus : Option NodeStatus := none
  attemptId : Option Identifier := none
  nodeId : Option Identifier := none
  executionId : Option Identifier := none
  holder : Option Identifier := none
  grantedAt : Option String := none
  resourceRef : Option String := none
  deriving DecidableEq

/-- Payload of an event record: the fields of the event, the committed version
and the canonical fingerprint. -/
structure EventRecord where
  event : AgentEvent
  version : Int
  fingerprint : List (String × Json)
  deriving DecidableEq

structure CancellationRecord where
  commandId : Option String
  fromVersion : Int
  toVersion : Int
  disposition : String
  revokedLeaseIds : List String
  cancelledAttemptIds : List String
  deriving DecidableEq

/-- `kind` and `payload`. -/
inductive RecordBody where
  | event (payload : EventRecord)
  | lease (payload : LeaseRecord)
  | cancellation (payload : CancellationRecord)
  deriving DecidableEq

structure RuntimeRecord where
  body : RecordBody
  recordIndex : Int := -1
  deriving DecidableEq

/-- Records in the order they were appended, each with its position as index. -/
structure Journal where
  records : List RuntimeRecord := []
  indexed : ∀ (i : Nat) (r : RuntimeRecord), records[i]? = some r → r.recordIndex = i := by simp
  deriving DecidableEq

namespace Journal

def append (j : Journal) (body : RecordBody) : Journal where
  records := j.records ++ [{ body, recordIndex := j.records.length }]
  indexed := by
    intro i r found
    by_cases old : i < j.records.length
    · exact j.indexed i r (List.getElem?_append_left old ▸ found)
    · rw [List.getElem?_append_right (not_lt.mp old), List.getElem?_singleton] at found
      split at found
      · next last =>
        cases found
        change (j.records.length : Int) = i
        omega
      · cases found

/-- `max(r.record_index for r in recs)`, -1 for an empty journal. -/
def lastRecordIndex (j : Journal) : Int :=
  (j.records.map (·.recordIndex)).foldl max (-1)

/-- Records with an index above `after`. -/
def since (j : Journal) (after : Int) : List RuntimeRecord :=
  j.records.filter fun r => after < r.recordIndex

end Journal

/-! ## Store -/

structure Store where
  runs : Dict String VersionedRunState := {}
  journals : Dict String Journal := {}
  dedupe : Dict String DedupeEntry := {}
  deriving DecidableEq

/-- `SnapshotRecord` holds the same three dictionaries. -/
abbrev SnapshotRecord := Store

/-- The run with `meta.journal_position` set. -/
def VersionedRunState.atPosition (v : VersionedRunState) (position : Int) : VersionedRunState :=
  { v with metadata := { v.metadata with journalPosition := position } }

namespace Store

def journal (s : Store) (runId : String) : Journal := (s.journals.get? runId).getD {}

/-- Version the compare-and-swap of a run sees. -/
def versionOf (s : Store) (runId : String) : Int := (s.runs.get? runId).elim (-1) (·.version)

def putRun (s : Store) (value : VersionedRunState) (expected : Int) :
    Except Raised VersionedRunState × Store :=
  if s.versionOf value.state.runId ≠ expected then
    (.error ⟨.concurrentState,
      s!"CAS mismatch for run {value.state.runId.text}: expected {expected}, current {s.versionOf value.state.runId}"⟩, s)
  else (.ok value, { s with runs := s.runs.set value.state.runId value })

def journalAppend (s : Store) (runId : String) (body : RecordBody) : Store :=
  { s with journals := s.journals.set runId ((s.journal runId).append body) }

def syncJournalPosition (s : Store) (runId : String) (expected : Int) : Except Raised Unit × Store :=
  match s.runs.get? runId with
  | none => (.ok (), s)
  | some rs =>
    if rs.version ≠ expected then
      (.error ⟨.concurrentState,
        s!"stale sync_journal_position for run {runId}: expected {expected}, current {rs.version}"⟩, s)
    else if rs.metadata.journalPosition = (s.journal runId).lastRecordIndex then (.ok (), s)
    else (.ok (), { s with
      runs := s.runs.set runId (rs.atPosition (s.journal runId).lastRecordIndex) })

def dedupePut (s : Store) (key : String) (entry : DedupeEntry) : Store :=
  { s with dedupe := s.dedupe.set key entry }

end Store

/-! ## Operations -/

abbrev StoreProg (α : Type) := Prog Store Raised α

def getRun (runId : String) : StoreProg (Option VersionedRunState) :=
  Prog.observe fun s => .ok (s.runs.get? runId)

def putRun (value : VersionedRunState) (expected : Int) : StoreProg VersionedRunState :=
  Prog.operation fun s => s.putRun value expected

def journalAppend (runId : String) (body : RecordBody) : StoreProg Unit :=
  Prog.operation fun s => (.ok (), s.journalAppend runId body)

def lastRecordIndex (runId : String) : StoreProg Int :=
  Prog.observe fun s => .ok (s.journal runId).lastRecordIndex

def syncJournalPosition (runId : String) (expected : Int) : StoreProg Unit :=
  Prog.operation fun s => s.syncJournalPosition runId expected

def dedupeState : StoreProg (Dict String DedupeEntry) :=
  Prog.observe fun s => .ok s.dedupe

def dedupePut (key : String) (entry : DedupeEntry) : StoreProg Unit :=
  Prog.operation fun s => (.ok (), s.dedupePut key entry)

def fail {α : Type} (e : Raised) : StoreProg α := .done (.error e)

/-! ## Journal indices -/

namespace Journal

theorem foldl_max_range (n : Nat) :
    ((List.range n).map (Nat.cast : Nat → Int)).foldl max (-1) = (n : Int) - 1 := by
  induction n with
  | zero => rfl
  | succ n ih =>
    rw [List.range_succ, List.map_append, List.foldl_append, ih]
    simp only [List.map_cons, List.map_nil, List.foldl_cons, List.foldl_nil]
    omega

theorem indices (j : Journal) :
    j.records.map (·.recordIndex) = (List.range j.records.length).map (Nat.cast : Nat → Int) := by
  apply List.ext_getElem
  · simp
  · intro i inside _
    rw [List.length_map] at inside
    rw [List.getElem_map, List.getElem_map, List.getElem_range]
    exact j.indexed i _ (List.getElem?_eq_getElem inside)

/-- The last index is one below the number of records. -/
theorem lastRecordIndex_eq (j : Journal) : j.lastRecordIndex = (j.records.length : Int) - 1 := by
  unfold lastRecordIndex
  rw [indices, foldl_max_range]

@[simp] theorem append_records (j : Journal) (body : RecordBody) :
    (j.append body).records = j.records ++ [{ body, recordIndex := j.records.length }] := rfl

theorem lastRecordIndex_append (j : Journal) (body : RecordBody) :
    (j.append body).lastRecordIndex = (j.records.length : Int) := by
  rw [lastRecordIndex_eq, append_records, List.length_append, List.length_singleton]
  omega

/-- The records above index `n - 1` are those appended after the first `n`. -/
theorem since_eq_drop (j : Journal) (n : Nat) : j.since ((n : Int) - 1) = j.records.drop n := by
  have split : j.records = j.records.take n ++ j.records.drop n :=
    (List.take_append_drop n j.records).symm
  have early : (j.records.take n).filter (fun r => (n : Int) - 1 < r.recordIndex) = [] := by
    rw [List.filter_eq_nil_iff]
    intro r member
    obtain ⟨i, found⟩ := List.mem_iff_getElem?.mp member
    rw [List.getElem?_take] at found
    split at found
    · next inside =>
      have index := j.indexed i r found
      simp only [decide_eq_true_eq]
      omega
    · cases found
  have late : (j.records.drop n).filter (fun r => (n : Int) - 1 < r.recordIndex) =
      j.records.drop n := by
    rw [List.filter_eq_self]
    intro r member
    obtain ⟨i, found⟩ := List.mem_iff_getElem?.mp member
    rw [List.getElem?_drop] at found
    have index := j.indexed (n + i) r found
    simp only [decide_eq_true_eq]
    omega
  unfold since
  conv_lhs => rw [split]
  rw [List.filter_append, early, late, List.nil_append]

end Journal
end DwSuperApps.Source.Runtime
