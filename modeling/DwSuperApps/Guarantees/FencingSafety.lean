import DwSuperApps.Guarantees.EventReplay

/-!
# Fencing under interleaving

Any number of clients read runs, work on what they read and put their next
versions under compare-and-swap, one store operation of one client at a time. A
version of a run is stored once and never changes but for its journal position, so
an event whose put succeeds was checked against the very leases it is committed to.
What that says of retired leases depends on the tokens the callers of grant bring.
-/
namespace DwSuperApps.Guarantees.FencingSafety

open DwSuperApps.Lib DwSuperApps.Lib.Checked
open DwSuperApps.Lib.Programs (Prog Pool Action Discipline)
open DwSuperApps.Lib.Programs.Prog (effects_observe)
open DwSuperApps.Source.Runtime
open DwSuperApps.Guarantees.RuntimeCommits DwSuperApps.Guarantees.LeaseHolding
open DwSuperApps.Guarantees.RoutedEvents DwSuperApps.Guarantees.EventReplay

/-! ## What a step does to the runs -/

/-- Every stored version stays or gives way to a greater one. -/
def Rises (s t : Store) : Prop :=
  ∀ r v, s.runs.get? r = some v → ∃ w, t.runs.get? r = some w ∧ v.version ≤ w.version ∧
    (v.version = w.version → v.atPosition 0 = w.atPosition 0)

theorem Rises.refl (s : Store) : Rises s s := fun _ v held => ⟨v, held, le_refl _, fun _ => rfl⟩

theorem Rises.trans {a b c : Store} (first : Rises a b) (second : Rises b c) : Rises a c := by
  intro r v held
  obtain ⟨v', held', risen, same⟩ := first r v held
  obtain ⟨v'', held'', risen', same'⟩ := second r v' held'
  refine ⟨v'', held'', risen.trans risen', ?_⟩
  intro equal
  exact (same (by omega)).trans (same' (by omega))

section Positions
variable {v w : VersionedRunState} (same : v.atPosition 0 = w.atPosition 0)
include same

theorem same_state : v.state = w.state := by
  have parts := congrArg VersionedRunState.state same
  exact parts

theorem same_version : v.version = w.version := by
  have parts := congrArg VersionedRunState.version same
  exact parts

theorem same_leases : v.metadata.leases = w.metadata.leases := by
  have parts := congrArg (fun u => u.metadata.leases) same
  exact parts

end Positions

/-- The lease table holds under `k` a lease of the quad and the token of `lease`,
ACTIVE if `lease` is. -/
def Continues (leases : Dict String WorkLease) (k : String) (lease : WorkLease) : Prop :=
  ∃ held ∈ leases.get? k, lease.quad = held.quad ∧ lease.fencingToken = held.fencingToken ∧
    (lease.status = .active → held.status = .active)

instance (leases : Dict String WorkLease) (k : String) (lease : WorkLease) :
    Decidable (Continues leases k lease) := by
  unfold Continues; infer_instance

/-- `lease` is what a grant of the run registers under `k`. -/
def Granted (request : Request) (r k : String) (lease : WorkLease) : Prop :=
  ∃ asked generation, request = .grant asked ∧ asked.runId.text = r ∧ k = asked.leaseId.text ∧
    asked.status = .active ∧ lease = { asked with leaseGeneration := generation }

/-- The lease table of a run is left, or one entry of it is set. -/
def TableStep (request : Request) (r : String) (before after : Dict String WorkLease) : Prop :=
  after = before ∨ ∃ k lease, after = before.set k lease ∧
    (Continues before k lease ∨ Granted request r k lease)

/-- The lease the router finds for the event bears its token. -/
def ActiveIn (v : VersionedRunState) (event : AgentEvent) : Prop :=
  ∃ lease, findActiveLease v.metadata.leases event.quad = some lease ∧
    lease.fencingToken = event.fencingToken

/-- The token of the event is that of the ACTIVE lease of its node and attempt. -/
def ActiveFor (s : Store) (event : AgentEvent) : Prop :=
  ∃ v, s.runs.get? event.runId = some v ∧ ActiveIn v event

/-- What one operation of a call does to the store. -/
structure Moves (request : Request) (s t : Store) : Prop where
  rises : Rises s t
  tables : ∀ r w, t.runs.get? r = some w → ∃ v, s.runs.get? r = some v ∧
    TableStep request r v.metadata.leases w.metadata.leases
  fenced : ∀ event, request = .route event →
    t.versionOf event.runId ≠ s.versionOf event.runId → ActiveFor s event

/-! ## Operations that keep the versions -/

/-- No run changes but for its position. -/
def Quiet (effect : Store → Store) : Prop :=
  ∀ s r, ((effect s).runs.get? r).map (·.atPosition 0) = (s.runs.get? r).map (·.atPosition 0)

theorem quiet_of_runs {effect : Store → Store} (same : ∀ s, (effect s).runs = s.runs) :
    Quiet effect := fun s r => by rw [same]

theorem quiet_id : Quiet id := quiet_of_runs fun _ => rfl

theorem quiet_sync (runId : String) (expected : Int) :
    Quiet fun s => (s.syncJournalPosition runId expected).2 := by
  intro s r
  simp only
  unfold Store.syncJournalPosition
  split
  · rfl
  · next rs held =>
    split
    · rfl
    · split
      · rfl
      · simp only
        rw [Dict.get?_set]
        split
        · next same =>
          rw [same, held]
          rfl
        · rfl

section Quiet
variable {effect : Store → Store} (quiet : Quiet effect) {s : Store} {r : String}
include quiet

theorem Quiet.forward {v : VersionedRunState} (held : s.runs.get? r = some v) :
    ∃ w, (effect s).runs.get? r = some w ∧ v.atPosition 0 = w.atPosition 0 := by
  have same := quiet s r
  rw [held, Option.map_some] at same
  obtain ⟨w, held', equal⟩ := Option.map_eq_some_iff.mp same
  exact ⟨w, held', equal.symm⟩

theorem Quiet.backward {w : VersionedRunState} (held : (effect s).runs.get? r = some w) :
    ∃ v, s.runs.get? r = some v ∧ v.atPosition 0 = w.atPosition 0 := by
  have same := quiet s r
  rw [held, Option.map_some] at same
  exact Option.map_eq_some_iff.mp same.symm

theorem Quiet.moves (request : Request) : Moves request s (effect s) := by
  refine ⟨?_, ?_, ?_⟩
  · intro r v held
    obtain ⟨w, held', same⟩ := quiet.forward held
    exact ⟨w, held', (same_version same).le, fun _ => same⟩
  · intro r w held
    obtain ⟨v, held', same⟩ := quiet.backward held
    exact ⟨v, held', .inl (same_leases same).symm⟩
  · intro event _ changed
    refine absurd ?_ changed
    have versions := congrArg (fun o : Option VersionedRunState => o.elim (-1) (·.version))
      (quiet s event.runId)
    simp only [Option.elim_map] at versions
    exact versions

theorem Quiet.keyed (keyed : StoreKeyed s) : StoreKeyed (effect s) := by
  refine ⟨?_, ?_⟩
  · intro r w held
    obtain ⟨v, held', same⟩ := quiet.backward held
    rw [← same_state same]
    exact keyed.run r v held'
  · intro r w held k lease found
    obtain ⟨v, held', same⟩ := quiet.backward held
    rw [← same_leases same] at found
    rw [← same_state same]
    exact keyed.leases r v held' k lease found

end Quiet

/-! ## The compare-and-swap -/

/-- A version that may follow `current` in the run. -/
structure Next (request : Request) (r : String) (current value : VersionedRunState) : Prop where
  run : value.state.runId = current.state.runId
  version : value.version = current.version + 1
  table : TableStep request r current.metadata.leases value.metadata.leases
  keyed : LeasesKeyed value
  fenced : ∀ event, request = .route event → event.runId.text = r ∧ ActiveIn current event

section Put
variable {request : Request} {r : String} {s : Store} {current value : VersionedRunState}

/-- A put at the stored version, which is `current` but for its position. -/
theorem put_moves (keyed : StoreKeyed s) {stored : VersionedRunState}
    (held : s.runs.get? r = some stored) (same : current.atPosition 0 = stored.atPosition 0)
    (next : Next request r current value) :
    Moves request s { s with runs := s.runs.set value.state.runId value } ∧
      StoreKeyed { s with runs := s.runs.set value.state.runId value } := by
  have own : value.state.runId.text = r := by
    rw [next.run, same_state same]
    exact keyed.run r stored held
  have version : value.version = stored.version + 1 := by rw [next.version, same_version same]
  have runs (r' : String) : (s.runs.set value.state.runId value).get? r' =
      if r' = r then some value else s.runs.get? r' := by rw [Dict.get?_set, own]
  refine ⟨⟨?_, ?_, ?_⟩, ?_, ?_⟩
  · intro r' v present
    change ∃ w, (s.runs.set _ _).get? r' = some w ∧ _
    rw [runs]
    split
    · next here =>
      rw [here] at present
      cases held.symm.trans present
      exact ⟨value, rfl, by omega, fun equal => by omega⟩
    · exact ⟨v, present, le_refl _, fun _ => rfl⟩
  · intro r' w present
    change (s.runs.set _ _).get? r' = some w at present
    rw [runs] at present
    split at present
    · next here =>
      cases present
      rw [here]
      refine ⟨stored, held, ?_⟩
      rw [← same_leases same]
      exact next.table
    · exact ⟨w, present, .inl rfl⟩
  · intro event isRoute _
    obtain ⟨mine, lease, found, token⟩ := next.fenced event isRoute
    refine ⟨stored, mine ▸ held, lease, ?_, token⟩
    rw [← same_leases same]
    exact found
  · intro r' w present
    change (s.runs.set _ _).get? r' = some w at present
    rw [runs] at present
    split at present
    · next here =>
      cases present
      exact own.trans here.symm
    · exact keyed.run r' w present
  · intro r' w present
    change (s.runs.set _ _).get? r' = some w at present
    rw [runs] at present
    split at present
    · cases present
      exact next.keyed
    · exact keyed.leases r' w present

end Put

/-- The store keeps its leases keyed; versions rise; every operation of a call
moves the store as it may. -/
def fencing : Discipline Store Raised (Option VersionedRunState) Request where
  inv := StoreKeyed
  rely := Rises
  admitted := fun _ _ _ => True
  guarantee := fun request s _ t => Moves request s t ∧ StoreKeyed t
  post := fun _ _ _ => True
  refl := fun s _ => Rises.refl s
  trans := fun _ _ _ => Rises.trans
  keeps := fun _ _ _ _ _ met => ⟨met.2, met.1.rises⟩

/-- What a client may do from here on. -/
abbrev Sat (request : Request) (p : StoreProg (Option VersionedRunState)) (s : Store) : Prop :=
  fencing.Sat request p s

section Rules
variable {request : Request} {s : Store}

theorem sat_done (x : Except Raised (Option VersionedRunState)) : Sat request (.done x) s :=
  fun _ _ _ => trivial

theorem sat_lift {β : Type} (x : Except Raised β) {f : β → StoreProg (Option VersionedRunState)}
    (each : ∀ b, x = .ok b → Sat request (f b) s) :
    Sat request ((.done x : StoreProg β) >>= f) s :=
  Discipline.Sat.lift (fun _ _ => trivial) x each

theorem sat_quiet {β : Type} {p : StoreProg β} (harmless : p.Effects Quiet)
    {f : β → StoreProg (Option VersionedRunState)} (later : ∀ b, Sat request (f b) s) :
    Sat request (p >>= f) s := by
  have met : ∀ effect, Quiet effect → ∀ t left, fencing.inv t →
      fencing.guarantee request t left (effect t) :=
    fun _ quiet _ _ keyed => ⟨quiet.moves request, quiet.keyed keyed⟩
  exact Discipline.Sat.effects (fun _ _ => trivial) met harmless later

/-- A client that only works on positions from here on. -/
theorem sat_ended {p : StoreProg (Option VersionedRunState)} (harmless : p.Effects Quiet) :
    Sat request p s := by
  have sat : Sat request (p >>= pure) s := sat_quiet harmless fun b => sat_done (.ok b)
  rw [Prog.bind_pure] at sat
  exact sat

/-- Reading a run: the client goes on with what is stored then. -/
theorem sat_getRun {runId : String}
    {f : Option VersionedRunState → StoreProg (Option VersionedRunState)}
    (each : ∀ t, StoreKeyed t → Rises s t → Sat request (f (t.runs.get? runId)) t) :
    Sat request (getRun runId >>= f) s := by
  intro t keyed moved _
  exact ⟨⟨quiet_id.moves request, keyed⟩, each t keyed moved⟩

/-- A put at a version that no greater one was seen of: where it succeeds the run
is still what it was. -/
theorem sat_put {r : String} {current value : VersionedRunState} {expected : Int}
    (known : s.runs.get? r = some current) (own : value.state.runId.text = r)
    (reached : expected ≤ current.version)
    (next : expected = current.version → Next request r current value)
    {f : VersionedRunState → StoreProg (Option VersionedRunState)}
    (later : ∀ t, t.runs.get? r = some value → Sat request (f value) t) :
    Sat request (putRun value expected >>= f) s := by
  intro t keyed moved _
  obtain ⟨stored, held, risen, same⟩ := moved r current known
  have version : t.versionOf value.state.runId = stored.version := by
    unfold Store.versionOf
    rw [own, held]
    rfl
  by_cases success : t.versionOf value.state.runId = expected
  · have equal : current.version = stored.version := by omega
    obtain ⟨moves, keyed'⟩ := put_moves keyed held (same equal) (next (by omega))
    simp only [putRun_matching success]
    exact ⟨⟨moves, keyed'⟩, later _ (by rw [← own]; exact Dict.get?_set_self ..)⟩
  · obtain ⟨e, refused⟩ := putRun_mismatching success
    simp only [refused]
    exact ⟨⟨quiet_id.moves request, keyed⟩, sat_done (.error e)⟩

end Rules

/-! ## The quiet operations -/

theorem getRun_effects (runId : String) : (getRun runId).Effects Quiet :=
  effects_observe quiet_id _

theorem dedupeState_effects : dedupeState.Effects Quiet := effects_observe quiet_id _

theorem lastRecordIndex_effects (runId : String) : (lastRecordIndex runId).Effects Quiet :=
  effects_observe quiet_id _

theorem journalAppend_effects (runId : String) (body : RecordBody) :
    (journalAppend runId body).Effects Quiet := ⟨quiet_of_runs fun _ => rfl, fun _ => trivial⟩

theorem dedupePut_effects (key : String) (entry : DedupeEntry) : (dedupePut key entry).Effects Quiet :=
  ⟨quiet_of_runs fun _ => rfl, fun _ => trivial⟩

theorem sync_effects (runId : String) (expected : Int) :
    (syncJournalPosition runId expected).Effects Quiet :=
  ⟨quiet_sync runId expected, fun _ => trivial⟩

theorem journalLease_effects (runId : String) (v : VersionedRunState) (r : LeaseRecord) :
    (journalLease runId v r).Effects Quiet :=
  (journalAppend_effects ..).bind fun _ => sync_effects ..

theorem recordAccepted_effects (event : AgentEvent) (version : Int) :
    (recordAccepted event version).Effects Quiet := by
  have puts (keys : List String) : (keys.forM fun key =>
      dedupePut key (.event (canonicalFingerprint event))).Effects Quiet := by
    induction keys with
    | nil => trivial
    | cons key rest ih => exact (dedupePut_effects ..).bind fun _ => ih
  refine (journalAppend_effects ..).bind fun _ => (puts _).bind fun _ => ?_
  exact (dedupePut_effects ..).bind fun _ => sync_effects ..

theorem runOrRaise_effects (field : String) (read : Option VersionedRunState) :
    (runOrRaise field read).Effects Quiet := by
  cases read <;> trivial

/-! ## The calls -/

section Leases
variable [Timestamps] {request : Request} {r : String} {s : Store} {current value : VersionedRunState}
  {k : String} {lease updated : WorkLease}

omit [Timestamps] in
/-- One lease of the table replaced by itself with another status or expiry. -/
theorem next_replaced (lease_call : request.isRoute = false) (keyed : LeasesKeyed current)
    (held : current.metadata.leases.get? k = some lease)
    (run : value.state.runId = current.state.runId) (version : value.version = current.version + 1)
    (table : value.metadata.leases = current.metadata.leases.set k updated)
    (own : updated.leaseId = lease.leaseId) (quad : updated.quad = lease.quad)
    (token : updated.fencingToken = lease.fencingToken)
    (status : updated.status = .active → lease.status = .active) :
    Next request r current value := by
  obtain ⟨name, mine⟩ := keyed k lease held
  have mine' : updated.runId = current.state.runId :=
    (congrArg Quad.runId quad : updated.runId = lease.runId).trans mine
  refine ⟨run, version, .inr ⟨k, updated, table, .inl ⟨lease, held, quad, token, status⟩⟩,
    keyed_set keyed run table (own ▸ name) mine', ?_⟩
  rintro event rfl
  cases lease_call

omit [Timestamps] in
theorem sat_commitLease (lease_call : request.isRoute = false) (keyed : StoreKeyed s)
    (known : s.runs.get? r = some current) (held : current.metadata.leases.get? k = some lease)
    (own : updated.leaseId = lease.leaseId) (quad : updated.quad = lease.quad)
    (token : updated.fencingToken = lease.fencingToken)
    (status : updated.status = .active → lease.status = .active) {record : LeaseRecord}
    (named : record.leaseId = k) :
    Sat request (commitLease lease updated current.version current record) s := by
  subst named
  unfold commitLease
  refine sat_put known ?_ (le_refl _) (fun _ => ?_) fun t _ => ?_
  · exact keyed.run r current known
  · exact next_replaced lease_call (keyed.leases r current known) held rfl rfl rfl own quad token
      status
  · exact sat_ended ((journalLease_effects ..).bind fun _ => getRun_effects _)

theorem sat_release (lease_call : request.isRoute = false) (keyed : StoreKeyed s)
    (known : s.runs.get? r = some current) (leaseId now : String) :
    Sat request (release leaseId current.version current now) s := by
  refine sat_lift _ fun lease found => ?_
  refine sat_lift _ fun expired _ => sat_lift _ fun _ _ => ?_
  refine sat_commitLease lease_call keyed known (activeLeaseNamed_ok found).1 ?_ ?_ ?_ ?_ ?_
  exacts [rfl, rfl, rfl, (fun active => nomatch active), rfl]

omit [Timestamps] in
theorem sat_revoke (lease_call : request.isRoute = false) (keyed : StoreKeyed s)
    (known : s.runs.get? r = some current) (leaseId : String) :
    Sat request (revoke leaseId current.version current) s := by
  refine sat_lift _ fun lease found => ?_
  refine sat_commitLease lease_call keyed known (activeLeaseNamed_ok found).1 ?_ ?_ ?_ ?_ ?_
  exacts [rfl, rfl, rfl, (fun active => nomatch active), rfl]

theorem sat_renew (lease_call : request.isRoute = false) (keyed : StoreKeyed s)
    (known : s.runs.get? r = some current) (leaseId newExpiresAt fencingToken now : String) :
    Sat request (renew leaseId newExpiresAt fencingToken current.version current now) s := by
  refine sat_lift _ fun lease found => sat_lift _ fun _ _ => ?_
  split
  · refine sat_lift _ fun other _ => ?_
    cases other with
    | none => exact sat_done _
    | some successor =>
      simp only
      split <;> exact sat_done _
  · next active =>
    refine sat_lift _ fun _ _ => ?_
    refine sat_commitLease lease_call keyed known (leaseNamed_ok found) ?_ ?_ ?_ ?_ ?_
    exacts [rfl, rfl, rfl, fun _ => not_not.mp active, rfl]

omit [Timestamps] in
/-- `expire` puts the state read now and the leases of the snapshot: where the put
succeeds they are of one version. -/
theorem sat_expire (lease_call : request.isRoute = false) (keyed : StoreKeyed s)
    (known : s.runs.get? r = some current) (leaseId now : String) :
    Sat request (expire leaseId current.version current now) s := by
  have own := keyed.run r current known
  have leases := keyed.leases r current known
  refine sat_lift _ fun lease found => ?_
  obtain ⟨held, active⟩ := activeLeaseNamed_ok found
  have mine := keyed_run leases own held
  refine sat_getRun fun t keyed' moved => ?_
  cases read : t.runs.get? lease.runId with
  | none => exact sat_done _
  | some rs =>
    refine sat_lift _ fun value computed => ?_
    obtain ⟨run, version⟩ := expiredVersion_ok computed
    have run' : value.state.runId = current.state.runId := by
      rw [run]
      exact Identifier.ext ((keyed'.run _ rs read).trans (mine.trans own.symm))
    refine Discipline.Sat.after (s := s) ?_ moved
    refine sat_put known (run' ▸ own) (le_refl _) (fun _ => ?_) fun u _ => ?_
    · exact next_replaced lease_call leases held run' version (expiredVersion_table computed) rfl rfl
        rfl fun active => nomatch active
    · exact sat_ended ((journalLease_effects ..).bind fun _ => (sync_effects ..).bind fun _ =>
        getRun_effects _)

omit [Timestamps] in
/-- A registration at the version of a run that was read before. -/
theorem sat_register {asked granted : WorkLease} (isGrant : request = .grant asked)
    (active : asked.status = .active) {generation : Nat}
    (concrete : granted = { asked with leaseGeneration := some generation })
    (known : s.runs.get? r = some current) (mine : asked.runId.text = r)
    {f : Option VersionedRunState → StoreProg (Option VersionedRunState)}
    (later : ∀ read t, Sat request (f read) t) :
    Sat request (registerLeaseFull granted current.version >>= f) s := by
  subst concrete mine
  unfold registerLeaseFull
  rw [Prog.bind_assoc]
  refine sat_getRun fun t keyed moved => ?_
  obtain ⟨rs, held, risen, -⟩ := moved _ current known
  simp only [held, Prog.bind_assoc]
  have own := keyed.run _ rs held
  have run := registeredVersion_run rs { asked with leaseGeneration := some generation } generation
    (current.version + 1)
  refine sat_put held ?_ risen (fun equal => ?_) fun u _ => ?_
  · exact (congrArg Identifier.text run).trans own
  · have version : (registeredVersion rs { asked with leaseGeneration := some generation } generation
        (current.version + 1)).version = rs.version + 1 := congrArg (· + 1) equal
    refine ⟨run, version, .inr ⟨_, _, rfl, .inr ⟨asked, some generation, isGrant, rfl, rfl, active,
      rfl⟩⟩, ?_, ?_⟩
    · exact keyed_set (keyed.leases _ rs held) run rfl rfl (Identifier.ext own.symm)
    · rintro event rfl
      cases isGrant
  · exact sat_quiet (sync_effects ..) fun _ => sat_quiet (getRun_effects _) fun read => later read u

theorem sat_grant (isGrant : request = .grant lease) (keyed : StoreKeyed s)
    (known : s.runs.get? r = some current) (mine : lease.runId.text = r) :
    Sat request (grant lease current.version current) s := by
  have lease_call : request.isRoute = false := by rw [isGrant]; rfl
  have own := keyed.run r current known
  have leases := keyed.leases r current known
  refine sat_lift _ fun granted checked => ?_
  obtain ⟨active, generation, -, concrete⟩ := checkGrant_ok checked
  have ended (rs : VersionedRunState) (read : Option VersionedRunState) (t : Store) :
      Sat request (runOrRaise "version" read >>= fun newRs => journalLease rs.state.runId newRs
        { op := .grant, leaseId := lease.leaseId, version := newRs.version
          fencingToken := some lease.fencingToken, currentLeaseId := some lease.leaseId.text
          attemptId := some lease.attemptId } >>= fun _ => pure (some newRs)) t :=
    sat_ended ((runOrRaise_effects ..).bind fun _ => (journalLease_effects ..).bind fun _ => trivial)
  cases existing : findActiveLease current.metadata.leases lease.quad with
  | none => exact sat_register isGrant active concrete known mine (ended current)
  | some old =>
    obtain ⟨⟨k, held⟩, -, -⟩ := findActiveLease_some existing
    have name := (leases k old held).1
    subst name
    simp only
    unfold replaceExisting detachLease
    simp only [Prog.bind_assoc]
    refine sat_put known ?_ (le_refl _) (fun _ => ?_) fun t stored => ?_
    · exact own
    · exact next_replaced lease_call leases held rfl rfl rfl rfl rfl rfl fun active => nomatch active
    · refine sat_quiet (sync_effects ..) fun _ => sat_getRun fun u _ moved => ?_
      obtain ⟨rs, held', -, -⟩ := moved r _ stored
      rw [own, held']
      refine sat_quiet (journalLease_effects ..) fun _ => ?_
      exact sat_register isGrant active concrete held' mine (ended rs)

end Leases

/-- What the router checked of the event. -/
theorem validated {current : VersionedRunState} {event : AgentEvent}
    (correlated : validateCorrelation event current = .ok ()) : ActiveIn current event := by
  unfold validateCorrelation at correlated
  split at correlated
  · cases correlated
  · obtain ⟨_, -, correlated⟩ := bind_ok.mp correlated
    split at correlated
    · cases correlated
    · next lease found => exact ⟨lease, found, ensure_ok.mp correlated⟩

/-- An event whose put succeeds was checked against the leases of the stored version. -/
theorem sat_route {request : Request} {s : Store} {current : VersionedRunState} {event : AgentEvent}
    (isRoute : request = .route event) (keyed : StoreKeyed s)
    (known : s.runs.get? event.runId = some current) :
    Sat request (route event current current.version >>= fun routed => pure (some routed)) s := by
  have own := keyed.run _ current known
  unfold route applyEventToState
  simp only [Prog.bind_assoc]
  refine sat_quiet dedupeState_effects fun seen => sat_lift _ fun duplicate _ => ?_
  cases duplicate with
  | true => exact sat_done _
  | false =>
    simp only [Bool.false_eq_true, if_false, Prog.bind_assoc]
    refine sat_lift _ fun _ correlated => ?_
    refine sat_quiet dedupeState_effects fun dedupe => sat_lift _ fun _ _ => ?_
    refine sat_lift _ fun state applied => sat_quiet dedupeState_effects fun dedupe' => ?_
    refine sat_lift _ fun watermarks _ => sat_quiet (lastRecordIndex_effects _) fun position => ?_
    have run := applyToRun_run applied
    refine sat_put known ?_ (le_refl _) (fun _ => ?_) fun t _ => ?_
    · exact (congrArg Identifier.text run).trans own
    · refine ⟨run, rfl, .inl rfl, ?_, ?_⟩
      · intro k lease held
        obtain ⟨name, mine⟩ := keyed.leases _ current known k lease held
        exact ⟨name, mine.trans run.symm⟩
      · rintro event' same
        cases isRoute.symm.trans same
        exact ⟨rfl, validated correlated⟩
    · exact sat_ended ((recordAccepted_effects ..).bind fun _ => trivial)

/-! ## Clients -/

section Clients
variable [Timestamps]

theorem sat_perform {s : Store} {current : VersionedRunState} {request : Request} (keyed : StoreKeyed s)
    (known : s.runs.get? request.runId = some current) :
    Sat request (request.perform current) s := by
  cases request with
  | grant lease => exact sat_grant rfl keyed known rfl
  | renew _ leaseId newExpiresAt fencingToken now =>
    exact sat_renew rfl keyed known leaseId newExpiresAt fencingToken now
  | release _ leaseId now => exact sat_release rfl keyed known leaseId now
  | revoke _ leaseId => exact sat_revoke rfl keyed known leaseId
  | expire _ leaseId now => exact sat_expire rfl keyed known leaseId now
  | route event => exact sat_route rfl keyed known

/-- Read the run, then work on what was read, however late. -/
theorem sat_body (request : Request) (s : Store) : Sat request request.body s := by
  refine sat_getRun fun t keyed _ => ?_
  cases read : t.runs.get? request.runId with
  | none => exact sat_done _
  | some current => exact sat_perform keyed read

/-- Clients at work on a store, and the stores before each action so far, newest
first. -/
structure Clients where
  pool : Pool Store Raised (Option VersionedRunState) Request
  past : List Store := []

namespace Clients

def store (C : Clients) : Store := C.pool.shared

/-- A client starts, or one of them takes its next operation. -/
def step (C : Clients) (a : Action Request Empty) : Clients where
  pool := C.pool.step Request.body (fun s _ => s) a
  past := C.store :: C.past

omit [Timestamps] in
/-- The request of the client that moves. -/
def mover (C : Clients) : Action Request Empty → Option Request
  | .advance i => (C.pool.calls[i]?).map Prod.fst
  | _ => none

/-- The put of the event succeeds in this step. -/
def Commits (C : Clients) (a : Action Request Empty) (event : AgentEvent) : Prop :=
  C.mover a = some (.route event) ∧
    (C.step a).store.versionOf event.runId ≠ C.store.versionOf event.runId

instance (C : Clients) (a : Action Request Empty) (event : AgentEvent) :
    Decidable (C.Commits a event) := by
  unfold Commits; infer_instance

end Clients

/-- The store is keyed and every client keeps to its discipline. -/
def Disciplined (C : Clients) : Prop := fencing.Keeps C.pool

theorem disciplined_step {C : Clients} (disciplined : Disciplined C) (a : Action Request Empty) :
    Disciplined (C.step a) := by
  have admitted : fencing.Admits Request.body (fun s (_ : Empty) => s) C.pool a := by
    cases a with
    | start request => exact fun _ => sat_body request C.store
    | advance i => exact fun _ _ => trivial
    | environment op => nomatch op
  exact (Discipline.Keeps.step disciplined admitted).1

/-- A step is a move of the client that takes it, or leaves the store. -/
theorem step_moves {C : Clients} (disciplined : Disciplined C) (a : Action Request Empty) :
    (C.step a).store = C.store ∨
      ∃ request, C.mover a = some request ∧ Moves request C.store (C.step a).store := by
  cases a with
  | start request => exact .inl rfl
  | environment op => nomatch op
  | advance i =>
    change (C.pool.advance i).shared = C.pool.shared ∨ ∃ request,
      (C.pool.calls[i]?).map Prod.fst = some request ∧ Moves request C.pool.shared
        (C.pool.advance i).shared
    unfold Pool.advance
    cases found : C.pool.calls[i]? with
    | none => exact .inl rfl
    | some call =>
      obtain ⟨request, p⟩ := call
      cases p with
      | done r => exact .inl rfl
      | atomic next effect =>
        have sat := disciplined.calls _ (List.mem_of_getElem? found)
        have met := sat C.pool.shared disciplined.inv (Rises.refl _) trivial
        exact .inr ⟨request, rfl, met.1.1⟩

theorem commit_active {C : Clients} (disciplined : Disciplined C) {a : Action Request Empty}
    {event : AgentEvent} (commits : C.Commits a event) : ActiveFor C.store event := by
  obtain ⟨isRoute, changed⟩ := commits
  rcases step_moves disciplined a with stays | ⟨request, moved, moves⟩
  · rw [stays] at changed
    exact absurd rfl changed
  · exact moves.fenced event (Option.some.inj (moved.symm.trans isRoute)) changed

end Clients

/-! ## Tokens -/

/-- `lease` is or was in the table of the run under `k`. -/
def Borne (C : Clients) (r k : String) (lease : WorkLease) : Prop :=
  ∃ read ∈ C.store :: C.past, ∃ v, read.runs.get? r = some v ∧
    v.metadata.leases.get? k = some lease

/-- The step makes an entry of the table the lease that is granted. -/
def Registers (s t : Store) (asked : WorkLease) : Prop :=
  ∃ v ∈ s.runs.get? asked.runId, ∃ w ∈ t.runs.get? asked.runId,
    ∃ lease ∈ w.metadata.leases.get? asked.leaseId,
      ¬ Continues v.metadata.leases asked.leaseId lease

instance (s t : Store) (asked : WorkLease) : Decidable (Registers s t asked) := by
  unfold Registers; infer_instance

/-- No lease the run has or had bears the token of the lease that is granted. -/
def Unborne (C : Clients) (asked : WorkLease) : Prop :=
  ∀ read ∈ C.store :: C.past, ∀ v ∈ read.runs.get? asked.runId,
    ∀ lease ∈ v.metadata.leases.values, lease.fencingToken ≠ asked.fencingToken

instance (C : Clients) (asked : WorkLease) : Decidable (Unborne C asked) := by
  unfold Unborne; infer_instance

theorem unborne_iff {C : Clients} {asked : WorkLease} :
    Unborne C asked ↔ ∀ k lease, Borne C asked.runId k lease →
      lease.fencingToken ≠ asked.fencingToken := by
  constructor
  · rintro unborne k lease ⟨read, member, v, held, found⟩
    exact unborne read member v held lease (Dict.mem_values.mpr ⟨k, found⟩)
  · intro all read member v held lease value
    obtain ⟨k, found⟩ := Dict.mem_values.mp value
    exact all k lease ⟨read, member, v, held, found⟩

/-- The leases a run starts with bear different tokens. -/
def TokensDistinct (s : Store) : Prop :=
  ∀ r v, s.runs.get? r = some v → ∀ k lease k' lease', v.metadata.leases.get? k = some lease →
    v.metadata.leases.get? k' = some lease' → lease.fencingToken = lease'.fencingToken → k = k'

theorem Continues.self {leases : Dict String WorkLease} {k : String} {lease : WorkLease}
    (held : leases.get? k = some lease) : Continues leases k lease := ⟨lease, held, rfl, rfl, id⟩

/-- An entry after a move goes on from one before it or is newly granted. -/
theorem entry_cases {request : Request} {s t : Store} (moves : Moves request s t) {r k : String}
    {w : VersionedRunState} {lease : WorkLease} (held : t.runs.get? r = some w)
    (found : w.metadata.leases.get? k = some lease) :
    (∃ v, s.runs.get? r = some v ∧ Continues v.metadata.leases k lease) ∨
      ∃ asked, request = .grant asked ∧ asked.runId.text = r ∧ k = asked.leaseId.text ∧
        lease.fencingToken = asked.fencingToken ∧ lease.status = .active ∧ Registers s t asked := by
  obtain ⟨v, before, same | ⟨k', placed, table, origin⟩⟩ := moves.tables r w held
  · rw [same] at found
    exact .inl ⟨v, before, Continues.self found⟩
  · have entry := found
    rw [table, Dict.get?_set] at entry
    split at entry
    · next here =>
      cases entry
      subst here
      by_cases continues : Continues v.metadata.leases k lease
      · exact .inl ⟨v, before, continues⟩
      · rcases origin with continues' | ⟨asked, generation, isGrant, rfl, rfl, active, rfl⟩
        · exact absurd continues' continues
        · exact .inr ⟨asked, isGrant, rfl, rfl, rfl, active, v, before, w, held, _, found, continues⟩
    · exact .inl ⟨v, before, Continues.self entry⟩

section Runs
variable [Timestamps] {C : Clients} {a : Action Request Empty}

/-- A grant that registers its lease brings a token no lease of the run has borne. -/
def FreshToken (C : Clients) (a : Action Request Empty) : Prop :=
  match C.mover a with
  | some (.grant asked) => Registers C.store (C.step a).store asked → Unborne C asked
  | _ => True

instance (C : Clients) (a : Action Request Empty) : Decidable (FreshToken C a) := by
  unfold FreshToken; split <;> infer_instance

/-- A token is borne by one lease of a run, which is not ACTIVE again once it was
retired. -/
structure Tokens (C : Clients) : Prop where
  bearer : ∀ r k lease k' lease', Borne C r k lease → Borne C r k' lease' →
    lease.fencingToken = lease'.fencingToken → k = k' ∧ lease.quad = lease'.quad
  active : ∀ r v k lease, C.store.runs.get? r = some v → v.metadata.leases.get? k = some lease →
    lease.status = .active → ∀ k' lease', Borne C r k' lease' →
      lease'.fencingToken = lease.fencingToken → lease'.status = .active

theorem borne_step {r k : String} {lease : WorkLease} :
    Borne (C.step a) r k lease ↔ (∃ w, (C.step a).store.runs.get? r = some w ∧
      w.metadata.leases.get? k = some lease) ∨ Borne C r k lease := by
  constructor
  · rintro ⟨read, member, v, held, found⟩
    rcases List.mem_cons.mp member with rfl | old
    · exact .inl ⟨v, held, found⟩
    · exact .inr ⟨read, old, v, held, found⟩
  · rintro (⟨w, held, found⟩ | ⟨read, old, v, held, found⟩)
    · exact ⟨_, List.mem_cons_self .., w, held, found⟩
    · exact ⟨read, List.mem_cons_of_mem _ old, v, held, found⟩

omit [Timestamps] in
theorem borne_now {r k : String} {v : VersionedRunState} {lease : WorkLease}
    (held : C.store.runs.get? r = some v) (found : v.metadata.leases.get? k = some lease) :
    Borne C r k lease := ⟨C.store, List.mem_cons_self .., v, held, found⟩

/-- An entry of the next store goes on from one of this store, or is the lease that
is granted, whose token is new. -/
theorem next_entry (disciplined : Disciplined C) (fresh : FreshToken C a) {r k : String}
    {w : VersionedRunState} {lease : WorkLease} (held : (C.step a).store.runs.get? r = some w)
    (found : w.metadata.leases.get? k = some lease) :
    (∃ v old, C.store.runs.get? r = some v ∧ v.metadata.leases.get? k = some old ∧
      lease.quad = old.quad ∧ lease.fencingToken = old.fencingToken ∧
      (lease.status = .active → old.status = .active)) ∨
    ∃ asked, C.mover a = some (.grant asked) ∧ k = asked.leaseId.text ∧ lease.status = .active ∧
      ∀ k' old, Borne C r k' old → old.fencingToken ≠ lease.fencingToken := by
  rcases step_moves disciplined a with stays | ⟨request, moved, moves⟩
  · rw [stays] at held
    exact .inl ⟨w, lease, held, found, rfl, rfl, id⟩
  · rcases entry_cases moves held found with
      ⟨v, before, old, present, quad, token, status⟩ | ⟨asked, rfl, rfl, rfl, token, active, registers⟩
    · exact .inl ⟨v, old, before, present, quad, token, status⟩
    · unfold FreshToken at fresh
      rw [moved] at fresh
      have unborne := unborne_iff.mp (fresh registers)
      exact .inr ⟨asked, moved, rfl, active, fun k' old borne => token ▸ unborne k' old borne⟩

theorem tokens_step (disciplined : Disciplined C) (fresh : FreshToken C a) (tokens : Tokens C) :
    Tokens (C.step a) := by
  -- a lease of the next store or of an earlier one has an older one of its token, or is new
  have origin {r k : String} {lease : WorkLease} (borne : Borne (C.step a) r k lease) :
      (∃ old, Borne C r k old ∧ lease.quad = old.quad ∧ lease.fencingToken = old.fencingToken) ∨
      ∃ asked w, C.mover a = some (.grant asked) ∧ k = asked.leaseId.text ∧
        (C.step a).store.runs.get? r = some w ∧ w.metadata.leases.get? k = some lease ∧
        ∀ k' old, Borne C r k' old → old.fencingToken ≠ lease.fencingToken := by
    rcases borne_step.mp borne with ⟨w, held, found⟩ | earlier
    · rcases next_entry disciplined fresh held found with
        ⟨v, old, before, present, quad, token, -⟩ | ⟨asked, moved, named, -, new⟩
      · exact .inl ⟨old, borne_now before present, quad, token⟩
      · exact .inr ⟨asked, w, moved, named, held, found, new⟩
    · exact .inl ⟨lease, earlier, rfl, rfl⟩
  refine ⟨?_, ?_⟩
  · intro r k lease k' lease' borne borne' token
    rcases origin borne with ⟨old, earlier, quad, token₁⟩ | ⟨asked, w, moved, named, held, found, new⟩
    · rcases origin borne' with
        ⟨old', earlier', quad', token₂⟩ | ⟨_, _, -, -, -, -, new⟩
      · obtain ⟨same, quads⟩ := tokens.bearer r k old k' old' earlier earlier'
          (token₁.symm.trans (token.trans token₂))
        exact ⟨same, quad.trans (quads.trans quad'.symm)⟩
      · exact absurd (token₁.symm.trans token) (new k old earlier)
    · rcases origin borne' with
        ⟨old', earlier', -, token₂⟩ | ⟨asked', w', moved', named', held', found', -⟩
      · exact absurd (token₂.symm.trans token.symm) (new k' old' earlier')
      · cases moved.symm.trans moved'
        cases held.symm.trans held'
        cases named.trans named'.symm
        cases found.symm.trans found'
        exact ⟨rfl, rfl⟩
  · intro r w k lease held found active k' lease' borne token
    rcases next_entry disciplined fresh held found with
      ⟨v, old, before, present, -, token₁, status⟩ | ⟨_, -, -, -, new⟩
    · rcases borne_step.mp borne with ⟨w', held', found'⟩ | earlier
      · cases held.symm.trans held'
        rcases next_entry disciplined fresh held found' with
          ⟨v', old', before', present', -, token₂, -⟩ | ⟨_, -, -, active', -⟩
        · cases before.symm.trans before'
          obtain ⟨same, -⟩ := tokens.bearer r k' old' k old (borne_now before present')
            (borne_now before present) (token₂.symm.trans (token.trans token₁))
          subst same
          cases found.symm.trans found'
          exact active
        · exact active'
      · exact tokens.active r v k old before present (status active) k' lease' earlier
          (token.trans token₁)
    · rcases borne_step.mp borne with ⟨w', held', found'⟩ | earlier
      · cases held.symm.trans held'
        rcases next_entry disciplined fresh held found' with
          ⟨v', old', before', present', -, token₂, -⟩ | ⟨_, -, -, active', -⟩
        · exact absurd (token₂.symm.trans token) (new k' old' (borne_now before' present'))
        · exact active'
      · exact absurd token (new k' lease' earlier)

/-- No lease of the run that bears the token of the event was ever retired or
overwritten: it is ACTIVE, of the quad of the event, and in the table. -/
def NeverRetired (C : Clients) (event : AgentEvent) : Prop :=
  ∀ k lease, Borne C event.runId k lease → lease.fencingToken = event.fencingToken →
    lease.status = .active ∧ lease.quad = event.quad ∧
      ∃ v now, C.store.runs.get? event.runId = some v ∧ v.metadata.leases.get? k = some now ∧
        now.status = .active ∧ now.fencingToken = event.fencingToken

omit [Timestamps] in
theorem never_retired {event : AgentEvent} (tokens : Tokens C) (active : ActiveFor C.store event) :
    NeverRetired C event := by
  obtain ⟨v, held, now, selected, token⟩ := active
  obtain ⟨⟨k, found⟩, quad, status⟩ := findActiveLease_some selected
  intro k' lease borne same
  have equal : lease.fencingToken = now.fencingToken := same.trans token.symm
  obtain ⟨rfl, quads⟩ := tokens.bearer _ k' lease k now borne (borne_now held found) equal
  refine ⟨tokens.active _ v k' now held found status k' lease borne equal, quads.trans quad,
    v, now, held, found, status, token⟩

omit [Timestamps] in
theorem tokens_start {s : Store} (distinct : TokensDistinct s) : Tokens ⟨⟨s, []⟩, []⟩ := by
  have stored {r k : String} {lease : WorkLease} (borne : Borne ⟨⟨s, []⟩, []⟩ r k lease) :
      ∃ v, s.runs.get? r = some v ∧ v.metadata.leases.get? k = some lease := by
    obtain ⟨read, member, v, held, found⟩ := borne
    cases List.mem_singleton.mp member
    exact ⟨v, held, found⟩
  refine ⟨?_, ?_⟩
  · intro r k lease k' lease' borne borne' token
    obtain ⟨v, held, found⟩ := stored borne
    obtain ⟨v', held', found'⟩ := stored borne'
    cases held.symm.trans held'
    cases distinct r v held k lease k' lease' found found' token
    cases found.symm.trans found'
    exact ⟨rfl, rfl⟩
  · intro r v k lease held found active k' lease' borne token
    obtain ⟨v', held', found'⟩ := stored borne
    cases held.symm.trans held'
    cases distinct r v held k lease k' lease' found found' token.symm
    cases found.symm.trans found'
    exact active

/-- In every interleaving an event is committed under the token of the lease that
is ACTIVE for its node and attempt; where grants bring tokens no lease of the run
has borne, no retired lease bears it. -/
theorem commits_fenced (s : Store) (keyed : StoreKeyed s) (actions : List (Action Request Empty)) :
    Runs.Along Clients.step (fun C a => ∀ event, C.Commits a event → ActiveFor C.store event)
        ⟨⟨s, []⟩, []⟩ actions ∧
      (TokensDistinct s → Runs.Along Clients.step FreshToken ⟨⟨s, []⟩, []⟩ actions →
        Runs.Along Clients.step (fun C a => ∀ event, C.Commits a event → NeverRetired C event)
          ⟨⟨s, []⟩, []⟩ actions) := by
  have start : Disciplined ⟨⟨s, []⟩, []⟩ := ⟨keyed, fun _ member => nomatch member⟩
  refine ⟨?_, fun distinct fresh => ?_⟩
  · have all : Runs.Along Clients.step (fun _ _ => True) ⟨⟨s, []⟩, []⟩ actions :=
      Runs.along_of_forall (fun _ _ => trivial) _ _
    have kept : ∀ C a, Disciplined C → True → Disciplined (C.step a) :=
      fun C a disciplined _ => disciplined_step disciplined a
    exact all.weaken kept (fun C a disciplined _ event commits => commit_active disciplined commits)
      start
  · have kept : ∀ C a, Disciplined C ∧ Tokens C → FreshToken C a →
        Disciplined (C.step a) ∧ Tokens (C.step a) :=
      fun C a held fresh => ⟨disciplined_step held.1 a, tokens_step held.1 fresh held.2⟩
    exact fresh.weaken kept (fun C a held _ event commits =>
      never_retired held.2 (commit_active held.1 commits)) ⟨start, tokens_start distinct⟩

end Runs

/-! ## Grants and events of the seeded run -/

theorem seeded_tokens : TokensDistinct seededStore := by
  refine Dict.forall_get?.mpr fun entry member => ?_
  obtain rfl := List.mem_singleton.mp member
  intro k lease k' lease' held held' _
  have first := List.mem_singleton.mp (Dict.get?_eq_some.mp held)
  have second := List.mem_singleton.mp (Dict.get?_eq_some.mp held')
  exact congrArg Prod.fst (first.trans second.symm)

/-- A client that takes `n` operations. -/
def advances (i n : Nat) : List (Action Request Empty) := List.replicate n (.advance i)

/-- An event reaches its put while a grant of a new lease waits for its own. -/
def interleaved : List (Action Request Empty) :=
  [.start (.grant lease2), .start (.route event0)] ++ advances 0 1 ++ advances 1 10 ++ advances 0 12

/-- The event is committed, and no lease with its token was retired before. -/
theorem commits_fenced_interleaved :
    (@Clients.Commits fixtureTimes (Runs.run (@Clients.step fixtureTimes) ⟨⟨seededStore, []⟩, []⟩
      (interleaved.take 8)) (.advance 1) event0) ∧
      Runs.Along (@Clients.step fixtureTimes)
        (fun C a => ∀ event, @Clients.Commits fixtureTimes C a event → NeverRetired C event)
        ⟨⟨seededStore, []⟩, []⟩ interleaved :=
  ⟨by decide,
    (@commits_fenced fixtureTimes seededStore seeded_keyed interleaved).2 seeded_tokens
      (by decide)⟩

theorem lease2_identifier : matchesId "lease.2" := by decide

/-- A lease that brings the token of the one it replaces. -/
def tokenAgain : WorkLease := fixtureLease ⟨"lease.2", lease2_identifier⟩ "ft-1"

/-- The clients when the put of the event is next. -/
def tokenReused : Clients :=
  Runs.run (@Clients.step fixtureTimes) ⟨⟨seededStore, []⟩, []⟩
    ([.start (.grant tokenAgain)] ++ advances 0 12 ++ [.start (.route event0)] ++ advances 1 5)

/-- The event is committed although its token is that of the replaced lease. -/
theorem reused_token_committed :
    @Clients.Commits fixtureTimes tokenReused (.advance 1) event0 ∧
      ∃ v ∈ tokenReused.store.runs.get? "run.1", ∃ lease ∈ v.metadata.leases.get? "lease.1",
        lease.status = .released ∧ lease.quad = event0.quad ∧
          lease.fencingToken = event0.fencingToken := by
  constructor <;> decide

end DwSuperApps.Guarantees.FencingSafety
