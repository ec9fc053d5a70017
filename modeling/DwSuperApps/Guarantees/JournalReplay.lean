import DwSuperApps.Source.Journal

/-!
# Replaying a journal that grows

The replay of the records a run appended after a given point, one record at a
time.
-/
namespace DwSuperApps.Guarantees.JournalReplay

open DwSuperApps.Lib DwSuperApps.Lib.Checked
open DwSuperApps.Source.Runtime

/-- State and sidecars after the records that follow the first `n`. -/
def replayed (base : VersionedRunState) (n : Nat) (j : Journal) : Except Raised Replay :=
  (j.records.drop n).foldlM applyRuntimeRecord (Replay.start base)

theorem replayRecords_ok {base final : VersionedRunState} {n : Nat} {j : Journal} :
    replayRecords base (j.records.drop n) = .ok final ↔
      ∃ st, replayed base n j = .ok st ∧ st.state = final := by
  rw [replayRecords_drop]
  unfold replayed
  cases (j.records.drop n).foldlM applyRuntimeRecord (Replay.start base) with
  | error e => simp [Except.map]
  | ok st => simp [Except.map]

/-- Nothing was appended yet. -/
theorem replayed_start (base : VersionedRunState) (j : Journal) :
    replayed base j.records.length j = .ok (Replay.start base) := by
  unfold replayed
  rw [List.drop_length]
  rfl

theorem replayed_append {base : VersionedRunState} {n : Nat} {j : Journal}
    (past : n ≤ j.records.length) (body : RecordBody) :
    replayed base n (j.append body) =
      replayed base n j >>= fun st => applyRuntimeRecord st ⟨body, j.records.length⟩ := by
  unfold replayed
  rw [Journal.append_records, List.drop_append_of_le_length past, List.foldlM_append]
  cases (j.records.drop n).foldlM applyRuntimeRecord (Replay.start base) with
  | error e => rfl
  | ok st =>
    change (applyRuntimeRecord st _ >>= fun st => pure st) = applyRuntimeRecord st _
    cases applyRuntimeRecord st ⟨body, j.records.length⟩ <;> rfl

theorem replayedVersion_next {state : VersionedRunState} {version : Int}
    (same : state.version = version) : replayedVersion (version + 1) state = version + 1 := by
  unfold replayedVersion
  rw [same]
  split <;> rfl

end DwSuperApps.Guarantees.JournalReplay
