import DwSuperApps.Source.RuntimeCalls

/-!
# Lease calls as commits

A lease call that runs alone either raises and leaves the store as it was, or
makes a list of commits: each replaces the run by its next version, appends one
journal record and moves the journal position to it. `planned` says which, as a
function of the snapshot; `perform_eq` connects it to the operations.
-/
namespace DwSuperApps.Guarantees.RuntimeCommits

open DwSuperApps.Lib DwSuperApps.Lib.Checked
open DwSuperApps.Lib.Programs (Prog)
open DwSuperApps.Lib.Programs.Prog (run_bind run_operation run_observe)
open DwSuperApps.Source.Runtime

/-! ## Commits -/

/-- A new version of a run and the record that journals it. -/
structure Commit where
  value : VersionedRunState
  body : RecordBody

/-- The store after a commit of a run. -/
def commit (s : Store) (runId : String) (c : Commit) : Store where
  runs := s.runs.set runId (c.value.atPosition (s.journal runId).records.length)
  journals := s.journals.set runId ((s.journal runId).append c.body)
  dedupe := s.dedupe

def commitAll (s : Store) (runId : String) (commits : List Commit) : Store :=
  commits.foldl (fun s c => commit s runId c) s

theorem commit_run (s : Store) (runId other : String) (c : Commit) :
    (commit s runId c).runs.get? other =
      if other = runId then some (c.value.atPosition (s.journal runId).records.length)
      else s.runs.get? other :=
  Dict.get?_set ..

theorem commit_journal (s : Store) (runId other : String) (c : Commit) :
    (commit s runId c).journal other =
      if other = runId then (s.journal runId).append c.body else s.journal other := by
  unfold Store.journal
  change ((s.journals.set runId _).get? other).getD {} = _
  rw [Dict.get?_set]
  split <;> rfl

section Put
variable {s : Store} {runId : String} {current v : VersionedRunState}

theorem put_current (held : s.runs.get? runId = some current) (own : v.state.runId.text = runId) :
    s.putRun v current.version = (.ok v, { s with runs := s.runs.set runId v }) := by
  have version : s.versionOf v.state.runId = current.version := by
    unfold Store.versionOf
    rw [own, held]
    rfl
  unfold Store.putRun
  rw [version, if_neg (by simp), own]

theorem put_stale (held : s.runs.get? runId = some current) (own : v.state.runId.text = runId)
    {expected : Int} (stale : expected ≠ current.version) : ∃ e, s.putRun v expected = (.error e, s) := by
  have version : s.versionOf v.state.runId = current.version := by
    unfold Store.versionOf
    rw [own, held]
    rfl
  unfold Store.putRun
  rw [version, if_pos (Ne.symm stale)]
  exact ⟨_, rfl⟩

/-- What was put before a commit of the same run is lost in it. -/
theorem commit_put (s : Store) (runId : String) (w : VersionedRunState) (c : Commit) :
    commit { s with runs := s.runs.set runId w } runId c = commit s runId c := by
  unfold commit
  simp only [Dict.set_set]
  rfl

/-- A sync at the version of the stored run. -/
theorem sync_held (stored : s.runs.get? runId = some v) :
    s.syncJournalPosition runId v.version =
      (.ok (), { s with
        runs := s.runs.set runId (v.atPosition (s.journal runId).lastRecordIndex) }) := by
  unfold Store.syncJournalPosition
  rw [stored]
  simp only [ne_eq, not_true_eq_false, if_false]
  split
  · next current =>
    have same : v.atPosition (s.journal runId).lastRecordIndex = v := by
      unfold VersionedRunState.atPosition
      rw [← current]
    rw [same, Dict.set_self stored]
  · rfl

/-- Journalling and syncing a version that is stored is its commit. -/
theorem sync_commit (stored : s.runs.get? runId = some v) (body : RecordBody) :
    (s.journalAppend runId body).syncJournalPosition runId v.version =
      (.ok (), commit s runId ⟨v, body⟩) := by
  have appended : (s.journalAppend runId body).journal runId = (s.journal runId).append body := by
    unfold Store.journal Store.journalAppend
    rw [Dict.get?_set_self]
    rfl
  have synced := sync_held (s := s.journalAppend runId body) stored
  rw [appended, Journal.lastRecordIndex_append] at synced
  exact synced

/-- A commit leaves the position synced. -/
theorem sync_again (s : Store) (runId : String) (c : Commit) :
    (commit s runId c).syncJournalPosition runId c.value.version = (.ok (), commit s runId c) := by
  have stored : (commit s runId c).runs.get? runId =
      some (c.value.atPosition (s.journal runId).records.length) := Dict.get?_set_self ..
  have synced := sync_held stored
  rw [commit_journal, if_pos rfl, Journal.lastRecordIndex_append] at synced
  have same : (commit s runId c).runs.set runId
      ((c.value.atPosition (s.journal runId).records.length).atPosition
        (s.journal runId).records.length) = (commit s runId c).runs := Dict.set_self stored
  rw [same] at synced
  exact synced

theorem sync_read (s : Store) (runId : String) (c : Commit) :
    (syncJournalPosition runId c.value.version >>= fun _ => getRun runId).run (commit s runId c) =
      (.ok ((commit s runId c).runs.get? runId), commit s runId c) := by
  have synced : (syncJournalPosition runId c.value.version).run (commit s runId c) =
      (.ok (), commit s runId c) := sync_again s runId c
  rw [run_bind, synced]
  rfl

theorem journal_run (stored : s.runs.get? runId = some v) (r : LeaseRecord) :
    (journalLease runId v r).run s = (.ok (), commit s runId ⟨v, .lease (r.identified v)⟩) :=
  sync_commit stored (.lease (r.identified v))

/-- Journalling after a put that was synced is the commit all the same. -/
theorem journal_put (s : Store) (runId : String) (v : VersionedRunState) (r : LeaseRecord) :
    (journalLease runId v r).run { s with runs := s.runs.set runId v } =
      (.ok (), commit s runId ⟨v, .lease (r.identified v)⟩) := by
  have stored : ({ s with runs := s.runs.set runId v } : Store).runs.get? runId = some v :=
    Dict.get?_set_self ..
  rw [journal_run stored, commit_put]

/-- Put, journal and sync: one commit. -/
theorem put_journal {α : Type} (held : s.runs.get? runId = some current)
    (own : v.state.runId.text = runId) (r : LeaseRecord) (next : StoreProg α) :
    (putRun v current.version >>= fun _ => journalLease runId v r >>= fun _ => next).run s =
      next.run (commit s runId ⟨v, .lease (r.identified v)⟩) := by
  have stored : ({ s with runs := s.runs.set runId v } : Store).runs.get? runId = some v :=
    Dict.get?_set_self ..
  have put : (putRun v current.version).run s = (.ok v, { s with runs := s.runs.set runId v }) :=
    put_current held own
  rw [run_bind, put]
  change (journalLease runId v r >>= fun _ => next).run _ = _
  rw [run_bind, journal_put]

/-- Put, sync and read: the version is stored, the journal not yet written. -/
theorem put_read (held : s.runs.get? runId = some current) (own : v.state.runId.text = runId) :
    (putRun v current.version >>= fun _ => syncJournalPosition runId v.version >>= fun _ =>
      getRun runId).run s =
      (.ok (some (v.atPosition (s.journal runId).lastRecordIndex)),
        { s with runs := s.runs.set runId (v.atPosition (s.journal runId).lastRecordIndex) }) := by
  have stored : ({ s with runs := s.runs.set runId v } : Store).runs.get? runId = some v :=
    Dict.get?_set_self ..
  have put : (putRun v current.version).run s = (.ok v, { s with runs := s.runs.set runId v }) :=
    put_current held own
  have synced : (syncJournalPosition runId v.version).run { s with runs := s.runs.set runId v } =
      (.ok (), { s with runs := s.runs.set runId (v.atPosition (s.journal runId).lastRecordIndex) }) := by
    refine (sync_held stored).trans ?_
    simp only [Dict.set_set]
    rfl
  rw [run_bind, put]
  change (syncJournalPosition runId v.version >>= fun _ => getRun runId).run _ = _
  rw [run_bind, synced]
  refine Prod.ext (congrArg Except.ok ?_) rfl
  exact Dict.get?_set_self ..

end Put

/-! ## Outcomes -/

/-- The outcome of a call alone, against its plan. -/
def Meets {α : Type} (s : Store) (runId : String) (out : Except Raised α × Store) :
    Except Raised (List Commit) → Prop
  | .error e => out = (.error e, s)
  | .ok commits => ∃ a, out = (.ok a, commitAll s runId commits)

theorem Meets.lift {α β : Type} {s : Store} {runId : String} (x : Except Raised β)
    {f : β → StoreProg α} {g : β → Except Raised (List Commit)}
    (each : ∀ b, x = .ok b → Meets s runId ((f b).run s) (g b)) :
    Meets s runId (((.done x : StoreProg β) >>= f).run s) (x >>= g) := by
  cases x with
  | error e => exact rfl
  | ok b => exact each b rfl

section Tables
variable {runId : String} {current : VersionedRunState}

/-- A lease table keyed by the ids of leases of the run. -/
def LeasesKeyed (v : VersionedRunState) : Prop :=
  ∀ k lease, v.metadata.leases.get? k = some lease →
    lease.leaseId.text = k ∧ lease.runId = v.state.runId

theorem leaseNamed_ok {leaseId : String} {lease : WorkLease}
    (found : leaseNamed current leaseId = .ok lease) :
    current.metadata.leases.get? leaseId = some lease := by
  unfold leaseNamed at found
  split at found
  · cases found
  · next held =>
    cases found
    exact held

theorem activeLeaseNamed_ok {verb leaseId : String} {lease : WorkLease}
    (found : activeLeaseNamed verb current leaseId = .ok lease) :
    current.metadata.leases.get? leaseId = some lease ∧ lease.status = .active := by
  obtain ⟨held, named, checked⟩ := bind_ok.mp found
  obtain ⟨_, active, same⟩ := bind_ok.mp checked
  cases same
  exact ⟨leaseNamed_ok named, ensure_ok.mp active⟩

theorem keyed_run (keyed : LeasesKeyed current) (own : current.state.runId.text = runId)
    {leaseId : String} {lease : WorkLease}
    (held : current.metadata.leases.get? leaseId = some lease) : lease.runId.text = runId := by
  rw [(keyed leaseId lease held).2]
  exact own

end Tables

/-! ## Plans -/

section Plans
variable [Timestamps]

/-- The commit of a snapshot with one lease replaced. -/
def replaceLease (current : VersionedRunState) (updated : WorkLease) (r : LeaseRecord) : Commit :=
  let value := current.withLease r.leaseId updated (current.version + 1)
  ⟨value, .lease (r.identified value)⟩

def plannedRelease (current : VersionedRunState) (leaseId now : String) :
    Except Raised (List Commit) := do
  let lease ← activeLeaseNamed "release" current leaseId
  let expired ← isExpired lease now
  ensure (expired = false) (leaseConflict s!"cannot release expired lease {leaseId}")
  return [replaceLease current { lease with status := .released }
    { op := .release, leaseId, version := current.version + 1, attemptId := some lease.attemptId }]

def plannedRevoke (current : VersionedRunState) (leaseId : String) : Except Raised (List Commit) := do
  let lease ← activeLeaseNamed "revoke" current leaseId
  return [replaceLease current { lease with status := .revoked }
    { op := .revoke, leaseId, version := current.version + 1
      fencingToken := some lease.fencingToken, attemptId := some lease.attemptId }]

/-- A renewal of a lease that is not ACTIVE: nothing to do where another holds
the quad. -/
def plannedSuccessor (current : VersionedRunState) (lease : WorkLease) (leaseId now : String) :
    Except Raised (List Commit) := do
  let other ← currentLease current.metadata.leases lease.quad now
  match other with
  | some successor =>
    if successor.leaseId.text ≠ leaseId then return []
    else .error (leaseConflict s!"cannot renew non-ACTIVE lease: {lease.status.value}")
  | none => .error (leaseConflict s!"cannot renew non-ACTIVE lease: {lease.status.value}")

def plannedRenew (current : VersionedRunState) (leaseId newExpiresAt fencingToken now : String) :
    Except Raised (List Commit) := do
  let lease ← leaseNamed current leaseId
  let _ ← parseIsoInstant newExpiresAt
  if lease.status ≠ .active then plannedSuccessor current lease leaseId now
  else
    checkRenew lease leaseId newExpiresAt fencingToken now
    return [replaceLease current { lease with expiresAt := newExpiresAt }
      { op := .renew, leaseId, version := current.version + 1
        fencingToken := some lease.fencingToken, currentLeaseId := some leaseId
        expiresAt := some newExpiresAt, attemptId := some lease.attemptId }]

def plannedExpire (current : VersionedRunState) (leaseId : String) : Except Raised (List Commit) := do
  let lease ← activeLeaseNamed "expire" current leaseId
  let value ← expiredVersion current current.metadata.leases leaseId lease (current.version + 1)
  let r : LeaseRecord :=
    { op := .expire, leaseId, version := current.version + 1
      nodeStatus := if boundLease current leaseId lease then some .leaseExpired else none
      attemptId := some lease.attemptId }
  return [⟨value, .lease (r.identified value)⟩]

/-- The commit that detaches the lease a grant replaces. -/
def detachCommit (current : VersionedRunState) (old : WorkLease) : Commit :=
  replaceLease current { old with status := .released }
    { op := .detach, leaseId := old.leaseId, version := current.version + 1 }

/-- The commit that registers a granted lease. -/
def grantCommit (current : VersionedRunState) (lease granted : WorkLease) (generation : Nat) :
    Commit :=
  let value := registeredVersion current granted generation (current.version + 1)
  let r : LeaseRecord :=
    { op := .grant, leaseId := lease.leaseId, version := current.version + 1
      fencingToken := some lease.fencingToken, currentLeaseId := some lease.leaseId.text
      attemptId := some lease.attemptId }
  ⟨value, .lease (r.identified value)⟩

/-- The state a registration goes on from. -/
def detached (current : VersionedRunState) : Option WorkLease → VersionedRunState
  | none => current
  | some old => (detachCommit current old).value

def plannedGrant (current : VersionedRunState) (lease : WorkLease) :
    Except Raised (List Commit) := do
  let granted ← checkGrant lease current
  let existing := findActiveLease current.metadata.leases lease.quad
  return (existing.map (detachCommit current)).toList ++
    [grantCommit (detached current existing) lease granted (granted.leaseGeneration.getD 0)]

/-- The commits of a lease call on the run it reads. -/
def planned (current : VersionedRunState) : Request → Except Raised (List Commit)
  | .grant lease => plannedGrant current lease
  | .renew _ leaseId newExpiresAt fencingToken now =>
    plannedRenew current leaseId newExpiresAt fencingToken now
  | .release _ leaseId now => plannedRelease current leaseId now
  | .revoke _ leaseId => plannedRevoke current leaseId
  | .expire _ leaseId _ => plannedExpire current leaseId
  | .route _ => .ok []

/-! ## The operations follow their plans -/

variable {s : Store} {runId : String} {current : VersionedRunState}

omit [Timestamps] in
theorem commitLease_run (held : s.runs.get? runId = some current)
    (own : current.state.runId.text = runId) {lease : WorkLease} (mine : lease.runId.text = runId)
    (updated : WorkLease) (r : LeaseRecord) :
    Meets s runId ((commitLease lease updated current.version current r).run s)
      (.ok [replaceLease current updated r]) := by
  refine ⟨(commit s runId (replaceLease current updated r)).runs.get? runId, ?_⟩
  unfold commitLease
  rw [mine]
  exact put_journal (v := current.withLease r.leaseId updated (current.version + 1)) held own r _

theorem release_run (held : s.runs.get? runId = some current)
    (own : current.state.runId.text = runId) (keyed : LeasesKeyed current) (leaseId now : String) :
    Meets s runId ((release leaseId current.version current now).run s)
      (plannedRelease current leaseId now) := by
  refine Meets.lift _ fun lease found => ?_
  refine Meets.lift _ fun expired _ => ?_
  refine Meets.lift _ fun _ _ => ?_
  exact commitLease_run held own (keyed_run keyed own (activeLeaseNamed_ok found).1) _ _

omit [Timestamps] in
theorem revoke_run (held : s.runs.get? runId = some current)
    (own : current.state.runId.text = runId) (keyed : LeasesKeyed current) (leaseId : String) :
    Meets s runId ((revoke leaseId current.version current).run s)
      (plannedRevoke current leaseId) := by
  refine Meets.lift _ fun lease found => ?_
  exact commitLease_run held own (keyed_run keyed own (activeLeaseNamed_ok found).1) _ _

theorem renew_run (held : s.runs.get? runId = some current)
    (own : current.state.runId.text = runId) (keyed : LeasesKeyed current)
    (leaseId newExpiresAt fencingToken now : String) :
    Meets s runId ((renew leaseId newExpiresAt fencingToken current.version current now).run s)
      (plannedRenew current leaseId newExpiresAt fencingToken now) := by
  refine Meets.lift _ fun lease found => ?_
  refine Meets.lift _ fun _ _ => ?_
  split
  · refine Meets.lift _ fun other _ => ?_
    cases other with
    | none => exact rfl
    | some successor =>
      by_cases different : successor.leaseId.text ≠ leaseId
      · simp only [if_pos different]
        exact ⟨_, rfl⟩
      · simp only [if_neg different]
        exact rfl
  · refine Meets.lift _ fun _ _ => ?_
    exact commitLease_run held own (keyed_run keyed own (leaseNamed_ok found)) _ _

omit [Timestamps] in
theorem getRun_run (s : Store) (runId : String) :
    (getRun runId).run s = (.ok (s.runs.get? runId), s) := rfl

omit [Timestamps] in
/-- What an expiry commits belongs to the run, at the next version. -/
theorem expiredVersion_ok {leases : Dict String WorkLease} {leaseId : String} {lease : WorkLease}
    {version : Int} {value : VersionedRunState}
    (computed : expiredVersion current leases leaseId lease version = .ok value) :
    value.state.runId = current.state.runId ∧ value.version = version := by
  unfold expiredVersion at computed
  simp only at computed
  split at computed
  · split at computed
    · cases computed
    · obtain ⟨_, _, same⟩ := bind_ok.mp computed
      cases same
      exact ⟨rfl, rfl⟩
  · cases computed
    exact ⟨rfl, rfl⟩

omit [Timestamps] in
theorem expire_run (held : s.runs.get? runId = some current)
    (own : current.state.runId.text = runId) (keyed : LeasesKeyed current) (leaseId now : String) :
    Meets s runId ((expire leaseId current.version current now).run s)
      (plannedExpire current leaseId) := by
  refine Meets.lift _ fun lease found => ?_
  have mine := keyed_run keyed own (activeLeaseNamed_ok found).1
  rw [run_bind, getRun_run, mine, held]
  refine Meets.lift _ fun value computed => ?_
  obtain ⟨same, version⟩ := expiredVersion_ok computed
  have mine' : value.state.runId.text = runId := by rw [same]; exact own
  exact ⟨_, (put_journal held mine' _ _).trans (sync_read s runId ⟨value, _⟩)⟩

theorem checkGrant_ok {lease granted : WorkLease} (checked : checkGrant lease current = .ok granted) :
    lease.status = .active ∧ ∃ generation, currentGeneration current lease < generation ∧
      granted = { lease with leaseGeneration := some generation } := by
  obtain ⟨_, active, checked⟩ := bind_ok.mp checked
  obtain ⟨grantedAt, _, checked⟩ := bind_ok.mp checked
  obtain ⟨expiresAt, _, checked⟩ := bind_ok.mp checked
  obtain ⟨_, _, checked⟩ := bind_ok.mp checked
  obtain ⟨_, risen, same⟩ := bind_ok.mp checked
  cases same
  exact ⟨ensure_ok.mp active, _, ensure_ok.mp risen, rfl⟩

omit [Timestamps] in
theorem registeredVersion_run (rs : VersionedRunState) (lease : WorkLease) (generation : Nat)
    (version : Int) : (registeredVersion rs lease generation version).state.runId = rs.state.runId := by
  unfold registeredVersion registeredRun
  simp only
  split <;> rfl

omit [Timestamps] in
/-- The registration and its record, from a stored run. -/
theorem register_run (held : s.runs.get? runId = some current)
    (own : current.state.runId.text = runId) {granted : WorkLease}
    (mine : granted.runId.text = runId) {generation : Nat}
    (concrete : granted.leaseGeneration = some generation) (r : VersionedRunState → LeaseRecord) :
    let value := (registeredVersion current granted generation (current.version + 1)).atPosition
      (s.journal runId).lastRecordIndex
    (registerLeaseFull granted current.version >>= fun read => runOrRaise "version" read >>=
      fun newRs => journalLease runId newRs (r newRs) >>= fun _ =>
        (pure (some newRs) : StoreProg (Option VersionedRunState))).run s =
      (.ok (some value), commit s runId ⟨value, .lease ((r value).identified value)⟩) := by
  intro value
  have mine' : (registeredVersion current granted generation (current.version + 1)).state.runId.text =
      runId := by
    rw [registeredVersion_run, own]
  have registered : (registerLeaseFull granted current.version).run s =
      (.ok (some value), { s with runs := s.runs.set runId value }) := by
    unfold registerLeaseFull
    rw [mine, concrete, run_bind, getRun_run, held]
    exact put_read held mine'
  rw [run_bind, registered]
  change (journalLease runId value (r value) >>= fun _ => _).run _ = _
  rw [run_bind, journal_put]
  rfl

omit [Timestamps] in
/-- The detach of a replaced lease and its record. -/
theorem replaceExisting_run (held : s.runs.get? runId = some current)
    (own : current.state.runId.text = runId) (old : WorkLease) :
    let value := (detachCommit current old).value.atPosition (s.journal runId).lastRecordIndex
    (replaceExisting (some old) current.version current).run s =
      (.ok (value, value.version), commit s runId (detachCommit current old)) := by
  intro value
  have mine : value.state.runId.text = runId := own
  have read : (detachLease old current current.version).run s =
      (.ok (some value), { s with runs := s.runs.set runId value }) := by
    unfold detachLease
    rw [own]
    exact put_read held own
  change (detachLease old current current.version >>= fun read => runOrRaise "version" read >>=
    fun rs => journalLease rs.state.runId rs _ >>= fun _ =>
      (pure (rs, rs.version) : StoreProg (VersionedRunState × Int))).run s = _
  rw [run_bind, read]
  change (journalLease value.state.runId value _ >>= fun _ =>
    (pure (value, value.version) : StoreProg (VersionedRunState × Int))).run _ = _
  rw [mine, run_bind, journal_put]
  rfl

theorem grant_run (held : s.runs.get? runId = some current)
    (own : current.state.runId.text = runId) {lease : WorkLease} (mine : lease.runId.text = runId) :
    Meets s runId ((grant lease current.version current).run s) (plannedGrant current lease) := by
  subst own
  refine Meets.lift _ fun granted checked => ?_
  obtain ⟨-, generation, -, concrete⟩ := checkGrant_ok checked
  have mine' : granted.runId.text = current.state.runId.text := by rw [concrete]; exact mine
  have generated : granted.leaseGeneration = some generation := by rw [concrete]
  let r : VersionedRunState → LeaseRecord := fun newRs =>
    { op := .grant, leaseId := lease.leaseId, version := newRs.version
      fencingToken := some lease.fencingToken, currentLeaseId := some lease.leaseId.text
      attemptId := some lease.attemptId }
  cases existing : findActiveLease current.metadata.leases lease.quad with
  | none =>
    have done := register_run held rfl mine' generated r
    change Meets s _ (Prog.run (registerLeaseFull granted current.version >>= fun read =>
      runOrRaise "version" read >>= fun newRs => journalLease current.state.runId newRs _ >>= fun _ =>
        pure (some newRs)) s) (.ok [grantCommit current lease granted (granted.leaseGeneration.getD 0)])
    rw [generated]
    exact ⟨_, done⟩
  | some old =>
    have replaced := replaceExisting_run held rfl old
    have stored : (commit s current.state.runId (detachCommit current old)).runs.get?
        current.state.runId =
        some ((detachCommit current old).value.atPosition
          (s.journal current.state.runId).records.length) := Dict.get?_set_self ..
    have done := register_run stored rfl mine' generated r
    change Meets s _ (Prog.run (replaceExisting (some old) current.version current >>= fun pair =>
      registerLeaseFull granted pair.2 >>= fun read => runOrRaise "version" read >>= fun newRs =>
        journalLease pair.1.state.runId newRs _ >>= fun _ => pure (some newRs)) s)
      (.ok [detachCommit current old,
        grantCommit (detachCommit current old).value lease granted
          (granted.leaseGeneration.getD 0)])
    rw [run_bind, replaced, generated]
    exact ⟨_, done⟩

/-- A lease call on the snapshot of the stored run follows its plan. -/
theorem perform_run (held : s.runs.get? runId = some current)
    (own : current.state.runId.text = runId) (keyed : LeasesKeyed current) {request : Request}
    (lease : request.isRoute = false) (mine : request.runId.text = runId) :
    Meets s runId ((request.perform current).run s) (planned current request) := by
  cases request with
  | grant lease => exact grant_run held own mine
  | renew _ leaseId newExpiresAt fencingToken now =>
    exact renew_run held own keyed leaseId newExpiresAt fencingToken now
  | release _ leaseId now => exact release_run held own keyed leaseId now
  | revoke _ leaseId => exact revoke_run held own keyed leaseId
  | expire _ leaseId now => exact expire_run held own keyed leaseId now
  | route event => cases lease

end Plans

/-! ## What a plan commits -/

section Inversion
variable [Timestamps] {current : VersionedRunState} {commits : List Commit}

theorem plannedRelease_ok {leaseId now : String}
    (accepted : plannedRelease current leaseId now = .ok commits) :
    ∃ lease, current.metadata.leases.get? leaseId = some lease ∧ lease.status = .active ∧
      commits = [replaceLease current { lease with status := .released }
        { op := .release, leaseId, version := current.version + 1
          attemptId := some lease.attemptId }] := by
  obtain ⟨lease, found, accepted⟩ := bind_ok.mp accepted
  obtain ⟨_, _, accepted⟩ := bind_ok.mp accepted
  obtain ⟨_, _, same⟩ := bind_ok.mp accepted
  cases same
  obtain ⟨held, active⟩ := activeLeaseNamed_ok found
  exact ⟨lease, held, active, rfl⟩

omit [Timestamps] in
theorem plannedRevoke_ok {leaseId : String}
    (accepted : plannedRevoke current leaseId = .ok commits) :
    ∃ lease, current.metadata.leases.get? leaseId = some lease ∧ lease.status = .active ∧
      commits = [replaceLease current { lease with status := .revoked }
        { op := .revoke, leaseId, version := current.version + 1
          fencingToken := some lease.fencingToken, attemptId := some lease.attemptId }] := by
  obtain ⟨lease, found, same⟩ := bind_ok.mp accepted
  cases same
  obtain ⟨held, active⟩ := activeLeaseNamed_ok found
  exact ⟨lease, held, active, rfl⟩

theorem plannedRenew_ok {leaseId newExpiresAt fencingToken now : String}
    (accepted : plannedRenew current leaseId newExpiresAt fencingToken now = .ok commits) :
    ∃ lease, current.metadata.leases.get? leaseId = some lease ∧
      (lease.status ≠ .active ∧ commits = [] ∨
        lease.status = .active ∧ commits = [replaceLease current
          { lease with expiresAt := newExpiresAt }
          { op := .renew, leaseId, version := current.version + 1
            fencingToken := some lease.fencingToken, currentLeaseId := some leaseId
            expiresAt := some newExpiresAt, attemptId := some lease.attemptId }]) := by
  obtain ⟨lease, found, accepted⟩ := bind_ok.mp accepted
  obtain ⟨_, _, accepted⟩ := bind_ok.mp accepted
  refine ⟨lease, leaseNamed_ok found, ?_⟩
  split at accepted
  · next inactive =>
    left
    refine ⟨inactive, ?_⟩
    obtain ⟨other, _, accepted⟩ := bind_ok.mp accepted
    cases other with
    | none => cases accepted
    | some successor =>
      simp only at accepted
      split at accepted
      · cases accepted
        rfl
      · cases accepted
  · next active =>
    right
    obtain ⟨_, _, same⟩ := bind_ok.mp accepted
    cases same
    exact ⟨not_not.mp active, rfl⟩

omit [Timestamps] in
theorem plannedExpire_ok {leaseId : String}
    (accepted : plannedExpire current leaseId = .ok commits) :
    ∃ lease value, current.metadata.leases.get? leaseId = some lease ∧ lease.status = .active ∧
      expiredVersion current current.metadata.leases leaseId lease (current.version + 1) = .ok value ∧
      commits = [⟨value, .lease (LeaseRecord.identified
        { op := .expire, leaseId, version := current.version + 1
          nodeStatus := if boundLease current leaseId lease then some .leaseExpired else none
          attemptId := some lease.attemptId } value)⟩] := by
  obtain ⟨lease, found, accepted⟩ := bind_ok.mp accepted
  obtain ⟨value, computed, same⟩ := bind_ok.mp accepted
  cases same
  obtain ⟨held, active⟩ := activeLeaseNamed_ok found
  exact ⟨lease, value, held, active, computed, rfl⟩

theorem plannedGrant_ok {lease : WorkLease} (accepted : plannedGrant current lease = .ok commits) :
    ∃ generation, currentGeneration current lease < generation ∧ lease.status = .active ∧
      commits =
        ((findActiveLease current.metadata.leases lease.quad).map (detachCommit current)).toList ++
          [grantCommit (detached current (findActiveLease current.metadata.leases lease.quad)) lease
            { lease with leaseGeneration := some generation } generation] := by
  obtain ⟨granted, checked, same⟩ := bind_ok.mp accepted
  cases same
  obtain ⟨active, generation, risen, rfl⟩ := checkGrant_ok checked
  exact ⟨generation, risen, active, rfl⟩

end Inversion

/-! ## Stale snapshots -/

/-- The program raises and leaves the store as it was. -/
def Refuses {α : Type} (p : StoreProg α) (s : Store) : Prop := ∃ e, p.run s = (.error e, s)

theorem Refuses.bind {α β : Type} {p : StoreProg α} {s : Store} (refused : Refuses p s)
    (f : α → StoreProg β) : Refuses (p >>= f) s := by
  obtain ⟨e, ended⟩ := refused
  exact ⟨e, by rw [run_bind, ended]⟩

theorem Refuses.lift {α β : Type} {s : Store} (x : Except Raised β) {f : β → StoreProg α}
    (each : ∀ b, x = .ok b → Refuses (f b) s) : Refuses ((.done x : StoreProg β) >>= f) s := by
  cases x with
  | error e => exact ⟨e, rfl⟩
  | ok b => exact each b rfl

theorem Refuses.stays {α : Type} {p : StoreProg α} {s : Store} (refused : Refuses p s) :
    (p.run s).2 = s := by
  obtain ⟨e, ended⟩ := refused
  rw [ended]

theorem lift_stays {α β : Type} {s : Store} (x : Except Raised β) {f : β → StoreProg α}
    (each : ∀ b, ((f b).run s).2 = s) : (((.done x : StoreProg β) >>= f).run s).2 = s := by
  cases x with
  | error e => exact rfl
  | ok b => exact each b

section Stale
variable [Timestamps] {s : Store} {runId : String} {current stale : VersionedRunState}

omit [Timestamps] in
/-- A put at another version than the stored one. -/
theorem put_refused {v : VersionedRunState} (held : s.runs.get? runId = some current)
    (own : v.state.runId.text = runId) {expected : Int} (differs : expected ≠ current.version) :
    Refuses (putRun v expected) s := put_stale held own differs

omit [Timestamps] in
theorem commitLease_refused (held : s.runs.get? runId = some current)
    (own : stale.state.runId.text = runId) (differs : stale.version ≠ current.version)
    (lease updated : WorkLease) (r : LeaseRecord) :
    Refuses (commitLease lease updated stale.version stale r) s :=
  (put_refused (v := stale.withLease r.leaseId updated (stale.version + 1)) held own differs).bind _

omit [Timestamps] in
theorem registerLeaseFull_refused (held : s.runs.get? runId = some current)
    (own : current.state.runId.text = runId) {expected : Int} (differs : expected ≠ current.version)
    {granted : WorkLease} (mine : granted.runId.text = runId) {generation : Nat}
    (concrete : granted.leaseGeneration = some generation) :
    Refuses (registerLeaseFull granted expected) s := by
  have mine' : (registeredVersion current granted generation (expected + 1)).state.runId.text =
      runId := by
    rw [registeredVersion_run, own]
  obtain ⟨e, ended⟩ := (put_refused held mine' differs).bind fun _ =>
    syncJournalPosition runId (expected + 1) >>= fun _ => getRun runId
  refine ⟨e, ?_⟩
  unfold registerLeaseFull
  rw [mine, concrete, run_bind, getRun_run, held]
  exact ended

theorem grant_refused (held : s.runs.get? runId = some current)
    (own : current.state.runId.text = runId) (ownStale : stale.state.runId.text = runId)
    (differs : stale.version ≠ current.version) {lease : WorkLease}
    (mine : lease.runId.text = runId) : Refuses (grant lease stale.version stale) s := by
  refine Refuses.lift _ fun granted checked => ?_
  obtain ⟨-, generation, -, concrete⟩ := checkGrant_ok checked
  have mine' : granted.runId.text = runId := by rw [concrete]; exact mine
  have generated : granted.leaseGeneration = some generation := by rw [concrete]
  cases existing : findActiveLease stale.metadata.leases lease.quad with
  | none => exact (registerLeaseFull_refused held own differs mine' generated).bind _
  | some old =>
    have detach : Refuses (detachLease old stale stale.version) s :=
      (put_refused (v := stale.withLease old.leaseId _ _) held ownStale differs).bind _
    exact (detach.bind _).bind _

omit [Timestamps] in
theorem expire_refused (held : s.runs.get? runId = some current)
    (own : current.state.runId.text = runId) (ownStale : stale.state.runId.text = runId)
    (keyed : LeasesKeyed stale) (differs : stale.version ≠ current.version) (leaseId now : String) :
    Refuses (expire leaseId stale.version stale now) s := by
  refine Refuses.lift _ fun lease found => ?_
  have mine := keyed_run keyed ownStale (activeLeaseNamed_ok found).1
  unfold Refuses
  rw [run_bind, getRun_run, mine, held]
  refine Refuses.lift _ fun value computed => ?_
  have mine' : value.state.runId.text = runId := by rw [(expiredVersion_ok computed).1]; exact own
  exact (put_refused held mine' differs).bind _

theorem renew_stale (held : s.runs.get? runId = some current)
    (own : stale.state.runId.text = runId) (differs : stale.version ≠ current.version)
    (leaseId newExpiresAt fencingToken now : String) :
    ((renew leaseId newExpiresAt fencingToken stale.version stale now).run s).2 = s := by
  refine lift_stays _ fun lease => ?_
  refine lift_stays _ fun _ => ?_
  split
  · refine lift_stays _ fun other => ?_
    cases other with
    | none => exact rfl
    | some successor =>
      by_cases different : successor.leaseId.text ≠ leaseId
      · simp only [if_pos different]
        exact rfl
      · simp only [if_neg different]
        exact rfl
  · refine lift_stays _ fun _ => ?_
    exact (commitLease_refused held own differs ..).stays

/-- A lease call on a snapshot that is not the stored version changes nothing. -/
theorem perform_stale (held : s.runs.get? runId = some current)
    (own : current.state.runId.text = runId) (ownStale : stale.state.runId.text = runId)
    (keyed : LeasesKeyed stale) (differs : stale.version ≠ current.version) {request : Request}
    (isLease : request.isRoute = false) (mine : request.runId.text = runId) :
    ((request.perform stale).run s).2 = s := by
  cases request with
  | grant lease => exact (grant_refused held own ownStale differs mine).stays
  | renew _ leaseId newExpiresAt fencingToken now =>
    exact renew_stale held ownStale differs leaseId newExpiresAt fencingToken now
  | release _ leaseId now =>
    refine Refuses.stays (Refuses.lift _ fun lease _ => ?_)
    refine Refuses.lift _ fun _ _ => ?_
    exact Refuses.lift _ fun _ _ => commitLease_refused held ownStale differs ..
  | revoke _ leaseId =>
    refine Refuses.stays (Refuses.lift _ fun lease _ => ?_)
    exact commitLease_refused held ownStale differs ..
  | expire _ leaseId now =>
    exact (expire_refused held own ownStale keyed differs leaseId now).stays
  | route event => cases isLease

end Stale

end DwSuperApps.Guarantees.RuntimeCommits
