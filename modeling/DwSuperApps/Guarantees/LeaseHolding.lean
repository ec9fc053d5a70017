import DwSuperApps.Guarantees.RuntimeCommits
import DwSuperApps.Lib.Runs

/-!
# One holder for each quad

The lease table of a run never has two ACTIVE leases for one (run, node,
execution, attempt) quad, and the generation recorded for an attempt only rises.
Both are facts about one version of a run and the next; the store and the
sequence of calls are added on top.
-/
namespace DwSuperApps.Guarantees.LeaseHolding

open DwSuperApps.Lib DwSuperApps.Lib.Checked
open DwSuperApps.Source.Runtime
open DwSuperApps.Guarantees.RuntimeCommits

/-! ## Tables -/

/-- At most one ACTIVE lease for each quad. -/
def SingleHolder (leases : Dict String WorkLease) : Prop :=
  ∀ k l k' l', leases.get? k = some l → leases.get? k' = some l' → l.quad = l'.quad →
    l.status = .active → l'.status = .active → k = k'

/-- Every attempt is still there, with the same generation or a higher one. -/
def GenerationsRise (earlier later : Dict String AttemptRecord) : Prop :=
  ∀ k attempt, earlier.get? k = some attempt →
    ∃ attempt', later.get? k = some attempt' ∧ attempt.leaseGeneration ≤ attempt'.leaseGeneration

theorem GenerationsRise.refl (attempts : Dict String AttemptRecord) :
    GenerationsRise attempts attempts :=
  fun _ attempt held => ⟨attempt, held, le_refl _⟩

theorem GenerationsRise.trans {a b c : Dict String AttemptRecord} (first : GenerationsRise a b)
    (second : GenerationsRise b c) : GenerationsRise a c := by
  intro k attempt held
  obtain ⟨attempt', held', risen⟩ := first k attempt held
  obtain ⟨attempt'', held'', risen'⟩ := second k attempt' held'
  exact ⟨attempt'', held'', risen.trans risen'⟩

theorem generationsRise_set {attempts : Dict String AttemptRecord} {k : String}
    {attempt updated : AttemptRecord} (held : attempts.get? k = some attempt)
    (risen : attempt.leaseGeneration ≤ updated.leaseGeneration) :
    GenerationsRise attempts (attempts.set k updated) := by
  intro other found stored
  rw [Dict.get?_set]
  by_cases same : other = k
  · subst same
    rw [held] at stored
    cases stored
    exact ⟨updated, if_pos rfl, risen⟩
  · exact ⟨found, by rw [if_neg same, stored], le_refl _⟩

section Replace
variable {leases : Dict String WorkLease} {k : String} {lease updated : WorkLease}

/-- A lease that is set makes no second holder where the ACTIVE leases of its
quad, if it is ACTIVE, are under its own key. -/
theorem single_set (single : SingleHolder leases)
    (alone : updated.status = .active → ∀ k' l', leases.get? k' = some l' → l'.quad = updated.quad →
      l'.status = .active → k' = k) : SingleHolder (leases.set k updated) := by
  intro i l j l' held held' quad active active'
  rw [Dict.get?_set] at held held'
  by_cases first : i = k
  · rw [if_pos first] at held
    cases held
    by_cases second : j = k
    · rw [first, second]
    · rw [if_neg second] at held'
      rw [first, alone active j l' held' quad.symm active']
  · rw [if_neg first] at held
    by_cases second : j = k
    · rw [if_pos second] at held'
      cases held'
      rw [second, alone active' i l held quad active]
    · rw [if_neg second] at held'
      exact single i l j l' held held' quad active active'

end Replace

/-! ## One version and the next -/

/-- What a lease call keeps from one version of a run to the next. -/
structure Follows (current value : VersionedRunState) : Prop where
  run : value.state.runId = current.state.runId
  keyed : LeasesKeyed value
  single : SingleHolder current.metadata.leases → SingleHolder value.metadata.leases
  generations : GenerationsRise current.metadata.attemptRegistry value.metadata.attemptRegistry

theorem Follows.refl {current : VersionedRunState} (keyed : LeasesKeyed current) :
    Follows current current :=
  ⟨rfl, keyed, id, GenerationsRise.refl _⟩

theorem Follows.trans {a b c : VersionedRunState} (first : Follows a b) (second : Follows b c) :
    Follows a c :=
  ⟨second.run.trans first.run, second.keyed, second.single ∘ first.single,
    first.generations.trans second.generations⟩

section Versions
variable {current value : VersionedRunState} {leaseId : String} {lease updated : WorkLease}

theorem keyed_set (keyed : LeasesKeyed current) (run : value.state.runId = current.state.runId)
    (table : value.metadata.leases = current.metadata.leases.set leaseId updated)
    (own : updated.leaseId.text = leaseId) (mine : updated.runId = current.state.runId) :
    LeasesKeyed value := by
  intro k l held
  rw [table, Dict.get?_set] at held
  rw [run]
  by_cases same : k = leaseId
  · rw [if_pos same] at held
    cases held
    exact ⟨own.trans same.symm, mine⟩
  · rw [if_neg same] at held
    exact keyed k l held

/-- One lease of the table is replaced by itself with another status or expiry;
no lease becomes ACTIVE. -/
theorem follows_replaced (keyed : LeasesKeyed current)
    (held : current.metadata.leases.get? leaseId = some lease)
    (run : value.state.runId = current.state.runId)
    (table : value.metadata.leases = current.metadata.leases.set leaseId updated)
    (own : updated.leaseId = lease.leaseId) (quad : updated.quad = lease.quad)
    (status : updated.status = .active → lease.status = .active)
    (generations : GenerationsRise current.metadata.attemptRegistry
      value.metadata.attemptRegistry) : Follows current value := by
  obtain ⟨name, mine⟩ := keyed leaseId lease held
  have mine' : updated.runId = current.state.runId :=
    (congrArg Quad.runId quad : updated.runId = lease.runId).trans mine
  refine ⟨run, keyed_set keyed run table (own ▸ name) mine', ?_, generations⟩
  intro single
  rw [table]
  apply single_set single
  intro active k' l' held' quad' active'
  exact single k' l' leaseId lease held' held (quad'.trans quad) active' (status active)

/-- The table an expiry commits. -/
theorem expiredVersion_table {leases : Dict String WorkLease} {version : Int}
    (computed : expiredVersion current leases leaseId lease version = .ok value) :
    value.metadata.leases = leases.set leaseId { lease with status := .expired } := by
  unfold expiredVersion at computed
  simp only at computed
  split at computed
  · split at computed
    · cases computed
    · obtain ⟨_, _, same⟩ := bind_ok.mp computed
      cases same
      rfl
  · cases computed
    rfl

theorem expiredAttempts_rise (attempts : Dict String AttemptRecord) (attemptId : String) :
    GenerationsRise attempts (expiredAttempts attempts attemptId) := by
  unfold expiredAttempts
  split
  · exact GenerationsRise.refl _
  · next attempt held => exact generationsRise_set held (le_refl _)

theorem expiredVersion_generations {version : Int}
    (computed : expiredVersion current current.metadata.leases leaseId lease version = .ok value) :
    GenerationsRise current.metadata.attemptRegistry value.metadata.attemptRegistry := by
  unfold expiredVersion at computed
  simp only at computed
  split at computed
  · split at computed
    · cases computed
    · obtain ⟨_, _, same⟩ := bind_ok.mp computed
      cases same
      exact expiredAttempts_rise _ _
  · cases computed
    exact GenerationsRise.refl _

theorem registeredAttempts_rise {attempts : Dict String AttemptRecord} {generation : Nat}
    (risen : ∀ attempt, attempts.get? lease.attemptId = some attempt →
      attempt.leaseGeneration ≤ generation) :
    GenerationsRise attempts (registeredAttempts attempts lease generation) := by
  unfold registeredAttempts
  split
  · exact GenerationsRise.refl _
  · next attempt held => exact generationsRise_set held (risen attempt held)

end Versions

/-! ## A lease call -/

/-- The value the last commit stores. -/
def lastValue (current : VersionedRunState) : List Commit → VersionedRunState
  | [] => current
  | c :: rest => lastValue c.value rest

section Call
variable {current : VersionedRunState} {lease : WorkLease}

theorem findActiveLease_some {leases : Dict String WorkLease} {quad : Quad} {old : WorkLease}
    (found : findActiveLease leases quad = some old) :
    (∃ k, leases.get? k = some old) ∧ old.quad = quad ∧ old.status = .active := by
  obtain ⟨held, matching⟩ := Dict.find_values_some found
  exact ⟨held, of_decide_eq_true matching⟩

theorem findActiveLease_none {leases : Dict String WorkLease} {quad : Quad}
    (absent : findActiveLease leases quad = none) {k : String} {l : WorkLease}
    (held : leases.get? k = some l) (same : l.quad = quad) : l.status ≠ .active := by
  intro active
  exact Dict.find_values_none absent held (decide_eq_true ⟨same, active⟩)

theorem recorded_le_currentGeneration {attempt : AttemptRecord}
    (held : current.metadata.attemptRegistry.get? lease.attemptId = some attempt) :
    attempt.leaseGeneration ≤ currentGeneration current lease := by
  unfold currentGeneration
  rw [held]
  simp only [Option.elim_some]
  split
  · exact le_refl _
  · exact le_max_left ..

/-- The lease a grant replaces is released before the new one is registered. -/
theorem follows_detached (keyed : LeasesKeyed current) {quad : Quad} :
    Follows current (detached current (findActiveLease current.metadata.leases quad)) := by
  cases found : findActiveLease current.metadata.leases quad with
  | none => exact Follows.refl keyed
  | some old =>
    obtain ⟨⟨k, held⟩, -, -⟩ := findActiveLease_some found
    have name := (keyed k old held).1
    subst name
    exact follows_replaced keyed held rfl rfl rfl rfl (fun active => nomatch active)
      (GenerationsRise.refl _)

/-- After the detach no lease of the quad is ACTIVE. -/
theorem detached_inactive (keyed : LeasesKeyed current) (single : SingleHolder current.metadata.leases)
    {quad : Quad} {k : String} {l : WorkLease}
    (held : (detached current (findActiveLease current.metadata.leases quad)).metadata.leases.get? k =
      some l) (same : l.quad = quad) : l.status ≠ .active := by
  cases found : findActiveLease current.metadata.leases quad with
  | none =>
    rw [found] at held
    exact findActiveLease_none found held same
  | some old =>
    rw [found] at held
    obtain ⟨⟨i, stored⟩, of_quad, active⟩ := findActiveLease_some found
    have name := (keyed i old stored).1
    subst name
    change (current.metadata.leases.set old.leaseId.text _).get? k = some l at held
    rw [Dict.get?_set] at held
    intro active'
    by_cases own : k = old.leaseId.text
    · rw [if_pos own] at held
      cases held
      cases active'
    · rw [if_neg own] at held
      exact own (single k l _ old held stored (same.trans of_quad.symm) active' active)

variable [Timestamps] {commits : List Commit}

omit [Timestamps] in
theorem lastValue_grant (lease granted : WorkLease) (generation : Nat) :
    lastValue current
      (((findActiveLease current.metadata.leases lease.quad).map (detachCommit current)).toList ++
        [grantCommit (detached current (findActiveLease current.metadata.leases lease.quad)) lease
          granted generation]) =
      registeredVersion (detached current (findActiveLease current.metadata.leases lease.quad))
        granted generation
        ((detached current (findActiveLease current.metadata.leases lease.quad)).version + 1) := by
  cases findActiveLease current.metadata.leases lease.quad <;> rfl

omit [Timestamps] in
theorem detached_attempts (existing : Option WorkLease) :
    (detached current existing).metadata.attemptRegistry = current.metadata.attemptRegistry := by
  cases existing <;> rfl

theorem follows_grant (keyed : LeasesKeyed current) (mine : lease.runId = current.state.runId)
    (accepted : plannedGrant current lease = .ok commits) :
    Follows current (lastValue current commits) := by
  obtain ⟨generation, risen, -, rfl⟩ := plannedGrant_ok accepted
  rw [lastValue_grant]
  have first : Follows current
      (detached current (findActiveLease current.metadata.leases lease.quad)) :=
    follows_detached keyed
  have run := registeredVersion_run
    (detached current (findActiveLease current.metadata.leases lease.quad))
    { lease with leaseGeneration := some generation } generation
    ((detached current (findActiveLease current.metadata.leases lease.quad)).version + 1)
  refine ⟨run.trans first.run, keyed_set first.keyed run rfl rfl (mine.trans first.run.symm), ?_, ?_⟩
  · intro single
    apply single_set (first.single single)
    intro _ k l held same active
    exact absurd active (detached_inactive keyed single held same)
  · apply first.generations.trans
    apply registeredAttempts_rise
    intro attempt held
    rw [detached_attempts] at held
    exact (recorded_le_currentGeneration held).trans risen.le

/-- Every lease call keeps what `Follows` says. -/
theorem follows_planned (keyed : LeasesKeyed current) {request : Request} (mine : request.runId = current.state.runId)
    (accepted : planned current request = .ok commits) :
    Follows current (lastValue current commits) := by
  cases request with
  | grant lease => exact follows_grant keyed mine accepted
  | release _ leaseId now =>
    obtain ⟨lease, held, -, rfl⟩ := plannedRelease_ok accepted
    exact follows_replaced keyed held rfl rfl rfl rfl (fun active => nomatch active)
      (GenerationsRise.refl _)
  | revoke _ leaseId =>
    obtain ⟨lease, held, -, rfl⟩ := plannedRevoke_ok accepted
    exact follows_replaced keyed held rfl rfl rfl rfl (fun active => nomatch active)
      (GenerationsRise.refl _)
  | renew _ leaseId newExpiresAt fencingToken now =>
    obtain ⟨lease, held, inactive | active⟩ := plannedRenew_ok accepted
    · rw [inactive.2]
      exact Follows.refl keyed
    · rw [active.2]
      exact follows_replaced keyed held rfl rfl rfl rfl id (GenerationsRise.refl _)
  | expire _ leaseId now =>
    obtain ⟨lease, value, held, -, computed, rfl⟩ := plannedExpire_ok accepted
    exact follows_replaced keyed held (expiredVersion_ok computed).1 (expiredVersion_table computed)
      rfl rfl (fun active => nomatch active) (expiredVersion_generations computed)
  | route event =>
    cases accepted
    exact Follows.refl keyed

omit [Timestamps] in
theorem expiredVersion_version {leaseId : String} {value : VersionedRunState}
    (computed : expiredVersion current current.metadata.leases leaseId lease (current.version + 1) =
      .ok value) : value.version = current.version + 1 :=
  (expiredVersion_ok computed).2

/-- Each commit takes the run to its next version. -/
theorem lastValue_version {request : Request} (accepted : planned current request = .ok commits) :
    (lastValue current commits).version = current.version + commits.length := by
  cases request with
  | grant lease =>
    obtain ⟨generation, -, -, rfl⟩ := plannedGrant_ok accepted
    cases findActiveLease current.metadata.leases lease.quad with
    | none => rfl
    | some old =>
      change current.version + 1 + 1 = current.version + 2
      omega
  | release _ leaseId now =>
    obtain ⟨lease, -, -, rfl⟩ := plannedRelease_ok accepted
    rfl
  | revoke _ leaseId =>
    obtain ⟨lease, -, -, rfl⟩ := plannedRevoke_ok accepted
    rfl
  | renew _ leaseId newExpiresAt fencingToken now =>
    obtain ⟨lease, -, inactive | active⟩ := plannedRenew_ok accepted
    · rw [inactive.2]
      exact (Int.add_zero _).symm
    · rw [active.2]
      rfl
  | expire _ leaseId now =>
    obtain ⟨lease, value, -, -, computed, rfl⟩ := plannedExpire_ok accepted
    exact expiredVersion_version computed
  | route event =>
    cases accepted
    exact (Int.add_zero _).symm

end Call

/-! ## The store -/

/-- Every run is stored under its id and its leases under theirs. -/
structure StoreKeyed (s : Store) : Prop where
  run : ∀ r v, s.runs.get? r = some v → v.state.runId.text = r
  leases : ∀ r v, s.runs.get? r = some v → LeasesKeyed v

theorem commitAll_run {s : Store} {runId : String} {current : VersionedRunState}
    (held : s.runs.get? runId = some current) (commits : List Commit) :
    ∃ position, (commitAll s runId commits).runs.get? runId =
      some ((lastValue current commits).atPosition position) := by
  induction commits generalizing s current with
  | nil => exact ⟨current.metadata.journalPosition, held⟩
  | cons c rest ih =>
    have stored : (commit s runId c).runs.get? runId =
        some (c.value.atPosition (s.journal runId).records.length) := Dict.get?_set_self ..
    obtain ⟨position, later⟩ := ih stored
    refine ⟨position, later.trans ?_⟩
    cases rest <;> rfl

theorem commitAll_other (s : Store) {runId other : String} (differs : other ≠ runId)
    (commits : List Commit) : (commitAll s runId commits).runs.get? other = s.runs.get? other := by
  induction commits generalizing s with
  | nil => rfl
  | cons c rest ih => exact (ih (commit s runId c)).trans (Dict.get?_set_of_ne _ differs _)

/-- Every run of the earlier store is in the later one, at the same version
unchanged or at a higher one. -/
def Later (earlier later : Store) : Prop :=
  ∀ r v, earlier.runs.get? r = some v → ∃ current, later.runs.get? r = some current ∧
    v.version ≤ current.version ∧ (v.version = current.version → v = current)

theorem Later.refl (s : Store) : Later s s := fun _ v held => ⟨v, held, le_refl _, fun _ => rfl⟩

theorem Later.trans {a b c : Store} (first : Later a b) (second : Later b c) : Later a c := by
  intro r v held
  obtain ⟨v', held', risen, same⟩ := first r v held
  obtain ⟨v'', held'', risen', same'⟩ := second r v' held'
  refine ⟨v'', held'', risen.trans risen', ?_⟩
  intro equal
  have at_first : v.version = v'.version := by omega
  rw [same at_first]
  exact same' (by omega)

/-! ## Sequences of calls -/

/-- The snapshots callers may still hold are versions the store has had. -/
structure Coherent (S : System) : Prop where
  keyed : StoreKeyed S.store
  past : ∀ read ∈ S.past, StoreKeyed read ∧ Later read S.store

theorem coherent_start {s : Store} (keyed : StoreKeyed s) : Coherent ⟨s, []⟩ :=
  ⟨keyed, fun _ member => nomatch member⟩

section Step
variable [Timestamps] {S : System} {c : Call}

/-- The call works on the stored version of its run. -/
def Fresh (S : System) (c : Call) (v : VersionedRunState) : Prop :=
  S.snapshot c = some v ∧ S.store.runs.get? c.request.runId = some v

omit [Timestamps] in
/-- A snapshot is the stored version of its run or an older one. -/
theorem snapshot_cases (coherent : Coherent S) {v : VersionedRunState}
    (read : S.snapshot c = some v) :
    v.state.runId.text = c.request.runId ∧ LeasesKeyed v ∧
      ∃ current, S.store.runs.get? c.request.runId = some current ∧
        (v = current ∨ v.version ≠ current.version) := by
  unfold System.snapshot at read
  obtain ⟨past, found, held⟩ := Option.bind_eq_some_iff.mp read
  have known : StoreKeyed past ∧ Later past S.store := by
    rcases List.mem_cons.mp (List.mem_of_getElem? found) with rfl | member
    · exact ⟨coherent.keyed, Later.refl _⟩
    · exact coherent.past past member
  obtain ⟨keyed, later⟩ := known
  obtain ⟨current, stored, -, same⟩ := later _ v held
  refine ⟨keyed.run _ v held, keyed.leases _ v held, current, stored, ?_⟩
  by_cases equal : v.version = current.version
  · exact .inl (same equal)
  · exact .inr equal

/-- A lease call on the stored version follows its plan. -/
theorem fresh_meets (coherent : Coherent S) (isLease : c.request.isRoute = false)
    {v : VersionedRunState} (fresh : Fresh S c v) :
    Meets S.store c.request.runId (S.result c) (planned v c.request) := by
  have held := fresh.2
  unfold System.result
  rw [fresh.1]
  exact perform_run held (coherent.keyed.run _ v held) (coherent.keyed.leases _ v held) isLease rfl

/-- A lease call without a snapshot or on an old one changes nothing. -/
theorem unfresh_stays (coherent : Coherent S) (isLease : c.request.isRoute = false)
    (unfresh : ∀ v, ¬ Fresh S c v) : (S.result c).2 = S.store := by
  unfold System.result
  cases read : S.snapshot c with
  | none => rfl
  | some v =>
    obtain ⟨own, keyed, current, held, same | stale⟩ := snapshot_cases coherent read
    · subst same
      exact absurd ⟨read, held⟩ (unfresh v)
    · exact perform_stale held (coherent.keyed.run _ current held) own keyed stale isLease rfl

/-- A lease call leaves the store as it is, or it read the stored version of its
run and makes the commits it planned. -/
theorem result_cases (coherent : Coherent S) (isLease : c.request.isRoute = false) :
    (S.result c).2 = S.store ∨
      ∃ current commits, Fresh S c current ∧ planned current c.request = .ok commits ∧
        (S.result c).2 = commitAll S.store c.request.runId commits := by
  by_cases unfresh : ∀ v, ¬ Fresh S c v
  · exact .inl (unfresh_stays coherent isLease unfresh)
  · obtain ⟨v, fresh⟩ := not_forall_not.mp unfresh
    have meets := fresh_meets coherent isLease fresh
    cases accepted : planned v c.request with
    | error e =>
      rw [accepted] at meets
      exact .inl (congrArg Prod.snd meets)
    | ok commits =>
      rw [accepted] at meets
      obtain ⟨out, done⟩ := meets
      exact .inr ⟨v, commits, fresh, accepted, congrArg Prod.snd done⟩

/-- What a lease call does to the run it names and to the others. -/
theorem step_cases (coherent : Coherent S) (isLease : c.request.isRoute = false) :
    (S.step c).store = S.store ∨
      ∃ current commits position, S.store.runs.get? c.request.runId = some current ∧
        planned current c.request = .ok commits ∧ 0 < commits.length ∧
        (S.step c).store.runs.get? c.request.runId =
          some ((lastValue current commits).atPosition position) ∧
        ∀ other, other ≠ c.request.runId.text →
          (S.step c).store.runs.get? other = S.store.runs.get? other := by
  rcases result_cases coherent isLease with stays | ⟨current, commits, ⟨-, held⟩, accepted, left⟩
  · exact .inl stays
  · obtain ⟨position, stored⟩ := commitAll_run held commits
    have store : (S.step c).store = commitAll S.store c.request.runId commits := left
    rcases Nat.eq_zero_or_pos commits.length with empty | made
    · rw [List.length_eq_zero_iff.mp empty] at store
      exact .inl store
    refine .inr ⟨current, commits, position, held, accepted, made, ?_, ?_⟩
    · rw [store, stored]
    · intro other differs
      rw [store, commitAll_other _ differs]

/-- A call keeps the store keyed and its earlier versions versions of it. -/
theorem step_store (coherent : Coherent S) (isLease : c.request.isRoute = false) :
    StoreKeyed (S.step c).store ∧ Later S.store (S.step c).store := by
  rcases step_cases coherent isLease with stays | ⟨current, commits, position, held, accepted, made, own, others⟩
  · rw [stays]
    exact ⟨coherent.keyed, Later.refl _⟩
  have mine := coherent.keyed.run _ current held
  have follows := follows_planned (coherent.keyed.leases _ current held) (Identifier.ext mine.symm) accepted
  have version := lastValue_version accepted
  refine ⟨⟨?_, ?_⟩, ?_⟩
  · intro r v found
    by_cases same : r = c.request.runId.text
    · subst same
      rw [own] at found
      cases found
      exact (congrArg Identifier.text follows.run).trans mine
    · rw [others r same] at found
      exact coherent.keyed.run r v found
  · intro r v found
    by_cases same : r = c.request.runId.text
    · subst same
      rw [own] at found
      cases found
      exact follows.keyed
    · rw [others r same] at found
      exact coherent.keyed.leases r v found
  · intro r v found
    by_cases same : r = c.request.runId.text
    · subst same
      rw [held] at found
      cases found
      refine ⟨_, own, ?_, ?_⟩
      · change current.version ≤ (lastValue current commits).version
        omega
      · intro equal
        change current.version = (lastValue current commits).version at equal
        omega
    · exact ⟨v, (others r same).trans found, le_refl _, fun _ => rfl⟩

theorem coherent_step (coherent : Coherent S) (isLease : c.request.isRoute = false) :
    Coherent (S.step c) := by
  obtain ⟨keyed, later⟩ := step_store coherent isLease
  refine ⟨keyed, ?_⟩
  intro read member
  rcases List.mem_cons.mp member with rfl | old
  · exact ⟨coherent.keyed, later⟩
  · obtain ⟨keyed', later'⟩ := coherent.past read old
    exact ⟨keyed', later'.trans later⟩

end Step

/-! ## Guarantees -/

/-- At most one ACTIVE lease for each quad, over the tables of all runs. -/
def SingleHolders (s : Store) : Prop :=
  ∀ r v k l r' v' k' l', s.runs.get? r = some v → v.metadata.leases.get? k = some l →
    s.runs.get? r' = some v' → v'.metadata.leases.get? k' = some l' →
    l.quad = l'.quad → l.status = .active → l'.status = .active → r = r' ∧ k = k'

theorem singleHolders_iff {s : Store} (keyed : StoreKeyed s) :
    SingleHolders s ↔ ∀ r v, s.runs.get? r = some v → SingleHolder v.metadata.leases := by
  constructor
  · intro all r v held k l k' l' found found' quad active active'
    exact (all r v k l r v k' l' held found held found' quad active active').2
  · intro each r v k l r' v' k' l' held found held' found' quad active active'
    have first := ((keyed.leases r v held) k l found).2
    have second := ((keyed.leases r' v' held') k' l' found').2
    have runs : v.state.runId = v'.state.runId := by
      rw [← first, ← second]
      exact congrArg Quad.runId quad
    have same : r = r' := by
      rw [← keyed.run r v held, ← keyed.run r' v' held', runs]
    subst same
    rw [held] at held'
    cases held'
    exact ⟨rfl, each r v held k l k' l' found found' quad active active'⟩

/-- No attempt of any run is lost or goes back to a lower generation. -/
def StoreGenerationsRise (earlier later : Store) : Prop :=
  ∀ r v, earlier.runs.get? r = some v → ∃ v', later.runs.get? r = some v' ∧
    GenerationsRise v.metadata.attemptRegistry v'.metadata.attemptRegistry

theorem StoreGenerationsRise.trans {a b c : Store} (first : StoreGenerationsRise a b)
    (second : StoreGenerationsRise b c) : StoreGenerationsRise a c := by
  intro r v held
  obtain ⟨v', held', risen⟩ := first r v held
  obtain ⟨v'', held'', risen'⟩ := second r v' held'
  exact ⟨v'', held'', risen.trans risen'⟩

theorem StoreGenerationsRise.refl (s : Store) : StoreGenerationsRise s s :=
  fun _ v held => ⟨v, held, GenerationsRise.refl _⟩

section Guarantee
variable [Timestamps]

/-- A grant that succeeds raises the generation of its attempt, where the attempt
is registered. -/
def GrantRaises (S : System) (c : Call) : Prop :=
  ∀ lease granted, c.request = .grant lease → (S.result c).1 = .ok (some granted) →
    ∀ v attempt, S.store.runs.get? lease.runId = some v →
      v.metadata.attemptRegistry.get? lease.attemptId = some attempt →
      ∃ v' attempt', (S.step c).store.runs.get? lease.runId = some v' ∧
        v'.metadata.attemptRegistry.get? lease.attemptId = some attempt' ∧
        attempt.leaseGeneration < attempt'.leaseGeneration

variable {S : System} {c : Call}

theorem singleHolders_step (coherent : Coherent S) (isLease : c.request.isRoute = false)
    (single : SingleHolders S.store) : SingleHolders (S.step c).store := by
  rw [singleHolders_iff (step_store coherent isLease).1]
  rw [singleHolders_iff coherent.keyed] at single
  rcases step_cases coherent isLease with
    stays | ⟨current, commits, position, held, accepted, -, own, others⟩
  · rw [stays]
    exact single
  have mine := coherent.keyed.run _ current held
  have follows := follows_planned (coherent.keyed.leases _ current held)
    (Identifier.ext mine.symm) accepted
  intro r v found
  by_cases same : r = c.request.runId.text
  · subst same
    rw [own] at found
    cases found
    exact follows.single (single _ current held)
  · rw [others r same] at found
    exact single r v found

theorem generations_step (coherent : Coherent S) (isLease : c.request.isRoute = false) :
    StoreGenerationsRise S.store (S.step c).store := by
  rcases step_cases coherent isLease with
    stays | ⟨current, commits, position, held, accepted, -, own, others⟩
  · rw [stays]
    exact StoreGenerationsRise.refl _
  have mine := coherent.keyed.run _ current held
  have follows := follows_planned (coherent.keyed.leases _ current held)
    (Identifier.ext mine.symm) accepted
  intro r v found
  by_cases same : r = c.request.runId.text
  · subst same
    rw [held] at found
    cases found
    exact ⟨_, own, follows.generations⟩
  · exact ⟨v, (others r same).trans found, GenerationsRise.refl _⟩

omit [Timestamps] in
theorem registeredAttempts_raised {attempts : Dict String AttemptRecord} {lease : WorkLease}
    {attempt : AttemptRecord} (held : attempts.get? lease.attemptId = some attempt)
    (generation : Nat) :
    ∃ attempt', (registeredAttempts attempts lease generation).get? lease.attemptId = some attempt' ∧
      attempt'.leaseGeneration = generation := by
  unfold registeredAttempts
  rw [held]
  exact ⟨_, Dict.get?_set_self .., rfl⟩

theorem grant_raises (coherent : Coherent S) : GrantRaises S c := by
  intro lease granted isGrant succeeded v attempt stored registered
  have request : c.request.runId = lease.runId := by rw [isGrant]; rfl
  have mine : lease.runId.text = lease.runId.text := rfl
  cases read : S.snapshot c with
  | none =>
    have result : S.result c = (.ok none, S.store) := by
      unfold System.result
      rw [read]
    rw [result] at succeeded
    cases succeeded
  | some current =>
    have result : S.result c = (c.request.perform current).run S.store := by
      unfold System.result
      rw [read]
    rw [isGrant] at result
    obtain ⟨own, keyed, newest, held, same | stale⟩ := snapshot_cases coherent read
    · subst same
      rw [request] at held own
      have known : v = current := (Option.some.inj (held.symm.trans stored)).symm
      rw [known] at registered
      have meets := grant_run held own mine
      cases accepted : plannedGrant current lease with
      | error e =>
        rw [accepted] at meets
        have failed := congrArg Prod.fst (result.trans meets)
        rw [failed] at succeeded
        cases succeeded
      | ok commits =>
        rw [accepted] at meets
        obtain ⟨out, done⟩ := meets
        obtain ⟨generation, risen, -, same⟩ := plannedGrant_ok accepted
        obtain ⟨position, found⟩ := commitAll_run held commits
        have store : (S.step c).store = commitAll S.store lease.runId commits :=
          congrArg Prod.snd (result.trans done)
        rw [same, lastValue_grant] at found
        have raised : ∃ attempt', (registeredAttempts
            (detached current (findActiveLease current.metadata.leases
              lease.quad)).metadata.attemptRegistry
            { lease with leaseGeneration := some generation } generation).get? lease.attemptId =
              some attempt' ∧ attempt'.leaseGeneration = generation :=
          registeredAttempts_raised (by rw [detached_attempts]; exact registered) generation
        obtain ⟨attempt', held', exact_generation⟩ := raised
        refine ⟨_, attempt', store ▸ same ▸ found, held', ?_⟩
        rw [exact_generation]
        exact lt_of_le_of_lt (recorded_le_currentGeneration registered) risen
    · rw [request] at held own
      have own' := coherent.keyed.run _ newest held
      obtain ⟨e, failed⟩ := grant_refused held own' own stale mine
      have failed := congrArg Prod.fst (result.trans failed)
      rw [failed] at succeeded
      cases succeeded

end Guarantee

/-! ## The seeded store of the recovery tests -/

/-- The timestamps the tests use. -/
@[reducible] def fixtureTimes : Timestamps where
  fromisoformat text :=
    if text = "2026-08-13T00:00:00Z" then .aware 1786579200
    else if text = "2026-08-20T01:00:00Z" then .aware 1787187600
    else if text = "2026-08-20T02:00:00Z" then .aware 1787191200
    else if text = "2026-08-20T03:00:00Z" then .aware 1787194800
    else .unparseable

theorem run1_identifier : matchesId "run.1" := by decide
theorem exec1_identifier : matchesId "exec.1" := by decide
theorem att1_identifier : matchesId "att.1" := by decide
theorem local_identifier : matchesId "prov.local" := by decide
theorem lease1_identifier : matchesId "lease.1" := by decide

def fixtureLease (leaseId : Identifier) (fencingToken : String) : WorkLease where
  leaseId := leaseId
  runId := ⟨"run.1", run1_identifier⟩
  nodeId := ⟨"n1", by decide⟩
  executionId := ⟨"exec.1", exec1_identifier⟩
  attemptId := ⟨"att.1", att1_identifier⟩
  holder := ⟨"prov.local", local_identifier⟩
  fencingToken := fencingToken
  grantedAt := "2026-08-13T00:00:00Z"
  expiresAt := "2026-08-20T01:00:00Z"

def lease1 : WorkLease := fixtureLease ⟨"lease.1", lease1_identifier⟩ "ft-1"
def lease2 : WorkLease := fixtureLease ⟨"lease.2", by decide⟩ "ft-2"

/-- run.1 with its ACTIVE lease.1, at version 1. -/
def seededRun : VersionedRunState where
  state := {
    runId := ⟨"run.1", run1_identifier⟩
    status := .running
    nodes := ⟨[("n1", { status := .running, contractRef := some "tc.1", currentAttempt := some 1
                        leaseRef := some "lease.1" })], by simp⟩
    activeAttempts := ["exec.1"]
    activeLeases := ["lease.1"] }
  version := 1
  metadata := {
    attemptRegistry := ⟨[("att.1", {
      attemptId := "att.1", runId := "run.1", nodeId := "n1", executionId := "exec.1"
      currentLeaseId := some "lease.1", fencingToken := "ft-1", status := "PENDING"
      currentAttemptNumber := 1 })], by simp⟩
    leases := ⟨[("lease.1", lease1)], by simp⟩
    journalPosition := 0 }

def seededStore : Store where
  runs := ⟨[("run.1", seededRun)], by simp⟩

theorem seeded_keyed : StoreKeyed seededStore := by
  constructor
  · exact Dict.forall_get?.mpr (by decide)
  · refine Dict.forall_get?.mpr fun entry member => ?_
    obtain rfl := List.mem_singleton.mp member
    exact Dict.forall_get?.mpr (by decide)

theorem seeded_single : SingleHolders seededStore := by
  rw [singleHolders_iff seeded_keyed]
  refine Dict.forall_get?.mpr fun entry member => ?_
  obtain rfl := List.mem_singleton.mp member
  intro k l k' l' held held' _ _ _
  have first := List.mem_singleton.mp (Dict.get?_eq_some.mp held)
  have second := List.mem_singleton.mp (Dict.get?_eq_some.mp held')
  exact congrArg Prod.fst (first.trans second.symm)

end DwSuperApps.Guarantees.LeaseHolding
