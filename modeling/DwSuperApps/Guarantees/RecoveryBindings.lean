import DwSuperApps.Source.CrashRecovery

/-!
# Recovery bindings along a run

The manifest table of one run shows a ledger: the durable continuation and the recovery
binding that is recorded, if there is one. Persisting replaces the continuation; binding
records the first binding and refuses every other one.

* `binding_accepted`: in every run of persists and bindings, each cut by a crash after any
  number of table operations, a binding is accepted exactly if it is for the durable
  continuation and no other binding is recorded; it is then what recovery returns, also
  after a crash and a retry, and a refused one leaves the table as it is.
* `advanced_binding_refused`: the binding of an advanced continuation is refused.
-/
namespace DwSuperApps.Guarantees.RecoveryBindings

open DwSuperApps.Lib DwSuperApps.Lib.Checked
open DwSuperApps.Lib.Programs (Prog)
open DwSuperApps.Lib.Programs.Prog
open DwSuperApps.Source.Continuations DwSuperApps.Source.Recovery

/-! ## Ledgers -/

/-- What the manifests of a run say. -/
structure Ledger where
  durable : Option ControllerContinuation := none
  recorded : Option ControllerRecoveryBinding := none

namespace Ledger

def persist (L : Ledger) (c : ControllerContinuation) : Ledger := { L with durable := some c }

def bind (b : ControllerRecoveryBinding) : Ledger := ⟨some b.continuation, some b⟩

/-- The binding is for the durable continuation, and no other one is recorded. -/
def Accepts (L : Ledger) (b : ControllerRecoveryBinding) : Prop :=
  (∀ c ∈ L.durable, c = b.continuation) ∧ ∀ other ∈ L.recorded, other = b

end Ledger

section Ledgers
variable [Sha256]

/-- The table holds the manifests of a ledger, saved first at some time. A recorded binding
has a durable continuation beside it. -/
structure Shows (table : ManifestTable) (runId : String) (L : Ledger) : Prop where
  continuation : ∃ createdAt, createdAt ≠ "" ∧
    loadManifest table runId continuationManifestKind = L.durable.map (·.manifestOf createdAt)
  binding : ∃ createdAt, loadManifest table runId crashRecoveryManifestKind =
    L.recorded.map fun b => { b.manifestOf with createdAt }
  backed : L.recorded.isSome → L.durable.isSome

section Table
variable {table : ManifestTable} {runId : String} {L : Ledger} {c : ControllerContinuation}
  {b : ControllerRecoveryBinding}

theorem shows_empty : Shows {} runId {} where
  continuation := ⟨"0", by decide, rfl⟩
  binding := ⟨"0", rfl⟩
  backed := id

omit [Sha256] in
theorem kinds_differ : crashRecoveryManifestKind ≠ continuationManifestKind := by decide

/-! ## Reading -/

theorem Shows.read (shows : Shows table runId L) :
    readContinuation (loadManifest table runId continuationManifestKind) = .ok L.durable := by
  obtain ⟨createdAt, -, held⟩ := shows.continuation
  rw [held]
  cases L.durable with
  | none => rfl
  | some c =>
    change (ControllerContinuation.fromManifest (c.manifestOf createdAt)).map some = _
    rw [ControllerContinuation.fromManifest_manifestOf]
    rfl

theorem Shows.recoverContinuation (shows : Shows table runId L) :
    (recoverContinuation runId).run table = (.ok L.durable, table) := by
  change (Prog.done (readContinuation _) : Prog ManifestTable Raised _).run table = _
  rw [shows.read]
  rfl

/-- The manifest of the recorded binding is read as that binding. -/
theorem Shows.fromManifest (shows : Shows table runId L) :
    (loadManifest table runId crashRecoveryManifestKind).map ControllerRecoveryBinding.fromManifest =
      L.recorded.map .ok := by
  obtain ⟨createdAt, held⟩ := shows.binding
  rw [held]
  cases L.recorded with
  | none => rfl
  | some b => exact congrArg some (b.fromManifest_manifestOf createdAt)

/-! ## Writing -/

theorem Shows.savedContinuation (shows : Shows table runId L) (own : c.runId.value = runId)
    {createdAt : String} (given : createdAt ≠ "") :
    Shows (saveManifest (c.manifestOf createdAt) table) runId (L.persist c) where
  continuation := by
    obtain ⟨first, solid, held⟩ := shows.continuation
    have run : (c.manifestOf createdAt).runId = runId := own
    have kind : (c.manifestOf createdAt).manifestKind = continuationManifestKind := rfl
    rw [load_saved run kind, held]
    cases L.durable with
    | none => exact ⟨createdAt, given, rfl⟩
    | some d => exact ⟨first, solid, rfl⟩
  binding := by
    obtain ⟨first, held⟩ := shows.binding
    exact ⟨first, (load_saved_other kinds_differ).trans held⟩
  backed := fun _ => rfl

theorem Shows.savedBinding (shows : Shows table runId L) (own : b.runId.value = runId)
    (durable : L.durable = some b.continuation) :
    Shows (saveManifest b.manifestOf table) runId (Ledger.bind b) where
  continuation := by
    obtain ⟨first, solid, held⟩ := shows.continuation
    rw [durable] at held
    exact ⟨first, solid, (load_saved_other kinds_differ.symm).trans held⟩
  binding := by
    obtain ⟨first, held⟩ := shows.binding
    have run : b.manifestOf.runId = runId := own
    have kind : b.manifestOf.manifestKind = crashRecoveryManifestKind := rfl
    rw [load_saved run kind, held]
    cases L.recorded with
    | none => exact ⟨b.updatedAt.value, rfl⟩
    | some other => exact ⟨first, rfl⟩
  backed := fun _ => rfl

/-! ## Persisting a continuation -/

/-- The creation time a persist writes. -/
def createdOf (table : ManifestTable) (c : ControllerContinuation) : String :=
  (loadManifest table c.runId.value continuationManifestKind).elim c.updatedAt.value (·.createdAt)

theorem Shows.created (shows : Shows table runId L) (own : c.runId.value = runId) :
    createdOf table c ≠ "" := by
  obtain ⟨createdAt, solid, held⟩ := shows.continuation
  unfold createdOf
  rw [own, held]
  cases L.durable with
  | none => exact ne_empty_of_strip c.updatedAt.solid
  | some d => exact solid

/-- A persist is a load and a save. -/
theorem persistContinuation_eq (shows : Shows table runId L) (own : c.runId.value = runId) :
    (persistContinuation c).run table =
      (.ok (), saveManifest (c.manifestOf (createdOf table c)) table) := by
  change (Prog.done (c.toManifest (createdOf table c)) >>= save).run table = _
  rw [c.toManifest_ok (shows.created own)]
  rfl

/-- Wherever a persist stops, the table shows the ledger before it or after it. -/
theorem persistContinuation_throughout (shows : Shows table runId L) (own : c.runId.value = runId)
    {P : ManifestTable → Prop} (before : P table) (after : ∀ t, Shows t runId (L.persist c) → P t) :
    (persistContinuation c).Throughout P table := by
  refine .atomic before ?_
  change Throughout P (Prog.done (c.toManifest (createdOf table c)) >>= save) table
  rw [c.toManifest_ok (shows.created own)]
  exact .atomic before (.done (after _ (shows.savedContinuation own (shows.created own))))

/-! ## Recovering a binding -/

omit [Sha256] in
theorem load_run (table : ManifestTable) (runId kind : String) :
    (load runId kind).run table = (.ok (loadManifest table runId kind), table) := rfl

/-- The manifest of a recorded binding, and the binding it is read as. -/
theorem Shows.recordedManifest (shows : Shows table runId L) (recorded : L.recorded = some b) :
    ∃ m, loadManifest table runId crashRecoveryManifestKind = some m ∧
      ControllerRecoveryBinding.fromManifest m = .ok b := by
  obtain ⟨createdAt, held⟩ := shows.binding
  rw [recorded] at held
  exact ⟨_, held, b.fromManifest_manifestOf createdAt⟩

theorem Shows.recovered (shows : Shows table runId L) (own : b.runId.value = runId)
    (recorded : L.recorded = some b) (durable : L.durable = some b.continuation) :
    (recoverRecoveryBinding runId).run table = (.ok b, table) := by
  obtain ⟨m, held, reads⟩ := shows.recordedManifest recorded
  have named : text (.str runId) "run_id" = .ok b.runId := by rw [← own, text_value]
  have binding : readBinding (loadManifest table runId crashRecoveryManifestKind) = .ok b := by
    rw [held]
    unfold readBinding
    dsimp only
    rw [reads]
  refine (run_lift_ok named).trans ((run_bind_ok (load_run table runId _)).trans ?_)
  refine (run_lift_ok binding).trans ((run_bind_ok shows.recoverContinuation).trans ?_)
  exact run_lift_ok (ensure_of durable _)

omit [Sha256] in
theorem recoverContinuation_quiet {P : ManifestTable → Prop} (held : P table) :
    (recoverContinuation runId).Throughout P table := .atomic held (.done held)

/-- Recovery only reads. -/
theorem recoverRecoveryBinding_quiet {P : ManifestTable → Prop} (held : P table) :
    (recoverRecoveryBinding runId).Throughout P table := by
  refine throughout_lift held fun _ _ => .bind (throughout_observe held) ?_
  rintro manifest t - held
  refine throughout_lift held fun binding _ => .bind (recoverContinuation_quiet held) ?_
  rintro durable t - held
  exact throughout_lift held fun _ _ => .done held

/-! ## Binding beside a recorded binding -/

section Confirm
variable {m : RunManifest} {other : ControllerRecoveryBinding}

/-- The recorded binding is confirmed if it is this one and still the durable continuation's. -/
theorem confirmBinding_ok (shows : Shows table runId L) (own : b.runId.value = runId)
    (reads : ControllerRecoveryBinding.fromManifest m = .ok b) (durable : L.durable = some b.continuation) :
    (confirmBinding b m).run table = (.ok b, table) := by
  subst own
  refine (run_lift_ok reads).trans ((run_lift_ok (ensure_of rfl _)).trans ?_)
  refine (run_bind_ok shows.recoverContinuation).trans ?_
  exact run_lift_ok (ensure_of durable _)

theorem confirmBinding_refused (shows : Shows table runId L) (own : b.runId.value = runId)
    (reads : ControllerRecoveryBinding.fromManifest m = .ok other)
    (differs : ¬ (other = b ∧ L.durable = some b.continuation)) :
    ∃ e, (confirmBinding b m).run table = (.error e, table) := by
  subst own
  by_cases same : other = b
  · have moved : L.durable ≠ some b.continuation := fun durable => differs ⟨same, durable⟩
    refine ⟨blocked "existing continuation conflicts with binding", ?_⟩
    refine (run_lift_ok reads).trans ((run_lift_ok (ensure_of same _)).trans ?_)
    refine (run_bind_ok shows.recoverContinuation).trans ?_
    exact run_lift_error (ensure_error moved _)
  · exact ⟨_, (run_lift_ok reads).trans (run_lift_error (ensure_error same _))⟩

theorem confirmBinding_throughout (b : ControllerRecoveryBinding) (m : RunManifest) :
    (confirmBinding b m).Throughout (fun t => t = table) table := by
  refine throughout_lift rfl fun bound _ => throughout_lift rfl fun _ _ => ?_
  refine .bind (recoverContinuation_quiet rfl) ?_
  rintro durable t - rfl
  exact throughout_lift rfl fun _ _ => .done rfl

end Confirm

/-! ## Binding for the first time -/

theorem recordBinding_ok (shows : Shows table runId L) (own : b.runId.value = runId)
    (agrees : ∀ c ∈ L.durable, c = b.continuation) :
    ∃ t, (recordBinding b).run table = (.ok b, t) ∧ Shows t runId (Ledger.bind b) := by
  subst own
  have ownContinuation : b.continuation.runId.value = b.runId.value := b.sameRun.symm
  have persisted := shows.savedContinuation ownContinuation (shows.created ownContinuation)
  have bound := persisted.savedBinding rfl rfl
  refine ⟨_, ?_, bound⟩
  refine (run_bind_ok shows.recoverContinuation).trans ((run_lift_ok (ensure_of agrees _)).trans ?_)
  refine (run_bind_ok (persistContinuation_eq shows ownContinuation)).trans ?_
  refine (run_lift_ok b.toManifest_ok).trans ((run_bind_ok rfl).trans ?_)
  refine (run_bind_ok (bound.recovered rfl rfl rfl)).trans ?_
  exact run_lift_ok (ensure_of rfl _)

theorem recordBinding_refused (shows : Shows table runId L) (own : b.runId.value = runId)
    (differs : ¬ ∀ c ∈ L.durable, c = b.continuation) :
    ∃ e, (recordBinding b).run table = (.error e, table) := by
  subst own
  refine ⟨blocked "existing continuation conflicts with binding", ?_⟩
  exact (run_bind_ok shows.recoverContinuation).trans (run_lift_error (ensure_error differs _))

/-- Where a first binding stops: before its writes, between them or after them. -/
def Between (table : ManifestTable) (L : Ledger) (b : ControllerRecoveryBinding) (t : ManifestTable) : Prop :=
  t = table ∨ L.Accepts b ∧
    (Shows t b.runId.value (L.persist b.continuation) ∨ Shows t b.runId.value (Ledger.bind b))

theorem recordBinding_throughout (shows : Shows table b.runId.value L) (fresh : L.recorded = none) :
    (recordBinding b).Throughout (Between table L b) table := by
  have ownContinuation : b.continuation.runId.value = b.runId.value := b.sameRun.symm
  refine .bind (recoverContinuation_quiet (.inl rfl)) ?_
  rintro durable t ran -
  obtain ⟨rfl, rfl⟩ : L.durable = durable ∧ table = t := by
    have same := shows.recoverContinuation.symm.trans ran
    exact ⟨Except.ok.inj (Prod.mk.inj same).1, (Prod.mk.inj same).2⟩
  refine throughout_lift (.inl rfl) fun _ agrees => ?_
  have accepts : L.Accepts b := ⟨ensure_ok.mp agrees, fun other held => by rw [fresh] at held; cases held⟩
  have persisted := shows.savedContinuation ownContinuation (shows.created ownContinuation)
  have bound := persisted.savedBinding rfl rfl
  refine .bind (persistContinuation_throughout shows ownContinuation (.inl rfl)
    fun t shown => .inr ⟨accepts, .inl shown⟩) ?_
  rintro ⟨⟩ t ran -
  obtain rfl : saveManifest _ _ = t := (Prod.mk.inj ((persistContinuation_eq shows ownContinuation).symm.trans ran)).2
  have between : Between table L b _ := .inr ⟨accepts, .inl persisted⟩
  refine throughout_lift between fun manifest made => ?_
  obtain rfl : b.manifestOf = manifest := Except.ok.inj (b.toManifest_ok.symm.trans made)
  have after : Between table L b _ := .inr ⟨accepts, .inr bound⟩
  refine .bind (throughout_operation between after) ?_
  rintro ⟨⟩ t ran -
  obtain rfl : saveManifest _ _ = t := congrArg Prod.snd ran
  refine .bind (recoverRecoveryBinding_quiet after) ?_
  rintro recovered t - held
  exact throughout_lift held fun _ _ => .done held

/-! ## Binding -/

theorem Shows.fresh (shows : Shows table runId L) (none : L.recorded = none) :
    loadManifest table runId crashRecoveryManifestKind = Option.none := by
  obtain ⟨createdAt, held⟩ := shows.binding
  rw [held, none]
  rfl

/-- Binding beside a recorded manifest is a confirmation. -/
theorem persistRecoveryBinding_recorded {m : RunManifest}
    (held : loadManifest table b.runId.value crashRecoveryManifestKind = some m) :
    (persistRecoveryBinding b).run table = (confirmBinding b m).run table := by
  refine (run_bind_ok (load_run table _ _)).trans ?_
  rw [held]

theorem persistRecoveryBinding_fresh
    (held : loadManifest table b.runId.value crashRecoveryManifestKind = none) :
    (persistRecoveryBinding b).run table = (recordBinding b).run table := by
  refine (run_bind_ok (load_run table _ _)).trans ?_
  rw [held]

/-- An accepted binding is recorded, and its continuation durable. -/
theorem persistRecoveryBinding_ok (shows : Shows table b.runId.value L) (accepts : L.Accepts b) :
    ∃ t, (persistRecoveryBinding b).run table = (.ok b, t) ∧ Shows t b.runId.value (Ledger.bind b) := by
  cases recorded : L.recorded with
  | none =>
    rw [persistRecoveryBinding_fresh (shows.fresh recorded)]
    exact recordBinding_ok shows rfl accepts.1
  | some other =>
    obtain rfl : other = b := accepts.2 other recorded
    obtain ⟨c, durable⟩ := Option.isSome_iff_exists.mp (shows.backed (by rw [recorded]; rfl))
    obtain rfl : c = other.continuation := accepts.1 c durable
    obtain ⟨m, held, reads⟩ := shows.recordedManifest recorded
    rw [persistRecoveryBinding_recorded held]
    have whole : L = Ledger.bind other := by
      cases L
      cases recorded
      cases durable
      rfl
    exact ⟨table, confirmBinding_ok shows rfl reads durable, whole ▸ shows⟩

/-- A binding that is not accepted changes nothing. -/
theorem persistRecoveryBinding_refused (shows : Shows table b.runId.value L) (refused : ¬ L.Accepts b) :
    ∃ e, (persistRecoveryBinding b).run table = (.error e, table) := by
  cases recorded : L.recorded with
  | none =>
    rw [persistRecoveryBinding_fresh (shows.fresh recorded)]
    refine recordBinding_refused shows rfl fun agrees => refused ⟨agrees, fun other held => ?_⟩
    rw [recorded] at held
    cases held
  | some other =>
    obtain ⟨m, held, reads⟩ := shows.recordedManifest recorded
    rw [persistRecoveryBinding_recorded held]
    refine confirmBinding_refused shows rfl reads ?_
    rintro ⟨rfl, durable⟩
    refine refused ⟨fun c found => ?_, fun second found => ?_⟩
    · rw [durable] at found
      exact (Option.some.inj found).symm
    · rw [recorded] at found
      exact (Option.some.inj found).symm

theorem persistRecoveryBinding_throughout (shows : Shows table b.runId.value L) :
    (persistRecoveryBinding b).Throughout (Between table L b) table := by
  refine .bind (throughout_observe (.inl rfl)) ?_
  rintro existing t ran -
  obtain ⟨rfl, rfl⟩ : loadManifest table b.runId.value crashRecoveryManifestKind = existing ∧ table = t := by
    have same := (load_run table b.runId.value crashRecoveryManifestKind).symm.trans ran
    exact ⟨Except.ok.inj (Prod.mk.inj same).1, (Prod.mk.inj same).2⟩
  cases recorded : L.recorded with
  | none =>
    rw [shows.fresh recorded]
    exact recordBinding_throughout shows recorded
  | some other =>
    obtain ⟨m, held, -⟩ := shows.recordedManifest recorded
    rw [held]
    exact (confirmBinding_throughout b m).mono fun t same => .inl same

/-- Retried after a crash, an accepted binding is accepted. -/
theorem Between.retried (shows : Shows table b.runId.value L) (accepts : L.Accepts b) {t : ManifestTable}
    (between : Between table L b t) :
    ∃ t', (persistRecoveryBinding b).run t = (.ok b, t') ∧ Shows t' b.runId.value (Ledger.bind b) := by
  have own : (Ledger.bind b).Accepts b :=
    ⟨fun c held => (Option.some.inj held).symm, fun other held => (Option.some.inj held).symm⟩
  have half : (L.persist b.continuation).Accepts b :=
    ⟨fun c held => (Option.some.inj held).symm, accepts.2⟩
  rcases between with rfl | ⟨-, shown | shown⟩
  · exact persistRecoveryBinding_ok shows accepts
  · exact persistRecoveryBinding_ok shown half
  · exact persistRecoveryBinding_ok shown own

end Table

/-! ## Runs -/

/-- A call for a run, whole or cut by a crash after some of its operations. -/
inductive Action (runId : String) where
  | persist (c : ControllerContinuation) (own : c.runId.value = runId) (crash : Option Nat)
  | bind (b : ControllerRecoveryBinding) (own : b.runId.value = runId) (crash : Option Nat)

/-- The table a call leaves. -/
def leaves {α : Type} (program : Prog ManifestTable Raised α) (crash : Option Nat)
    (table : ManifestTable) : ManifestTable :=
  match crash with
  | none => (program.run table).2
  | some n => (program.runFor n table).2

omit [Sha256] in
theorem leaves_of {α : Type} {program : Prog ManifestTable Raised α} {P : ManifestTable → Prop}
    {table : ManifestTable} (held : program.Throughout P table) (crash : Option Nat) :
    P (leaves program crash table) := by
  cases crash with
  | none => exact held.run
  | some n => exact held.runFor n

def step {runId : String} (table : ManifestTable) : Action runId → ManifestTable
  | .persist c _ crash => leaves (persistContinuation c) crash table
  | .bind b _ crash => leaves (persistRecoveryBinding b) crash table

theorem step_shows {runId : String} (table : ManifestTable) (a : Action runId)
    (shows : ∃ L, Shows table runId L) : ∃ L, Shows (step table a) runId L := by
  obtain ⟨L, shows⟩ := shows
  cases a with
  | persist c own crash =>
    exact leaves_of (persistContinuation_throughout shows own (P := fun t => ∃ L, Shows t runId L)
      ⟨L, shows⟩ fun t shown => ⟨_, shown⟩) crash
  | bind b own crash =>
    cases own
    change ∃ L, Shows (leaves (persistRecoveryBinding b) crash table) b.runId.value L
    rcases leaves_of (persistRecoveryBinding_throughout shows) crash with same | ⟨-, shown | shown⟩
    · rw [same]
      exact ⟨L, shows⟩
    · exact ⟨_, shown⟩
    · exact ⟨_, shown⟩

/-- A whole persist makes its continuation durable. -/
theorem Shows.persisted {runId : String} {table : ManifestTable} {L : Ledger} {c : ControllerContinuation}
    (shows : Shows table runId L) (own : c.runId.value = runId) :
    Shows (step table (.persist c own none)) runId (L.persist c) := by
  change Shows ((persistContinuation c).run table).2 runId _
  rw [persistContinuation_eq shows own]
  exact shows.savedContinuation own (shows.created own)

/-- A whole binding that is accepted is recorded. -/
theorem Shows.bound {runId : String} {table : ManifestTable} {L : Ledger} {b : ControllerRecoveryBinding}
    (shows : Shows table runId L) (own : b.runId.value = runId) (accepts : L.Accepts b) :
    Shows (step table (.bind b own none)) runId (Ledger.bind b) := by
  subst own
  obtain ⟨t, ran, shown⟩ := persistRecoveryBinding_ok shows accepts
  change Shows ((persistRecoveryBinding b).run table).2 b.runId.value _
  rw [ran]
  exact shown

theorem run_shows {runId : String} (actions : List (Action runId)) :
    ∃ L, Shows (Runs.run step {} actions) runId L :=
  Runs.run_invariant_of_forall step_shows actions ⟨{}, shows_empty⟩

/-- Along every run, whatever crashes: a continuation that is persisted is durable, a
binding is accepted exactly if it is for the durable continuation and the only one. -/
theorem binding_accepted (b : ControllerRecoveryBinding) (actions : List (Action b.runId.value)) :
    let table := Runs.run step {} actions
    ∃ L : Ledger,
      (recoverContinuation b.runId.value).run table = (.ok L.durable, table) ∧
      (loadManifest table b.runId.value crashRecoveryManifestKind).map
        ControllerRecoveryBinding.fromManifest = L.recorded.map .ok ∧
      (∀ c : ControllerContinuation, c.runId.value = b.runId.value →
        ∃ t, (persistContinuation c).run table = (.ok (), t) ∧
          (recoverContinuation b.runId.value).run t = (.ok (some c), t)) ∧
      (L.Accepts b → ∀ operations,
        ∃ t, (persistRecoveryBinding b).run ((persistRecoveryBinding b).runFor operations table).2 =
            (.ok b, t) ∧
          (recoverRecoveryBinding b.runId.value).run t = (.ok b, t) ∧
          (recoverContinuation b.runId.value).run t = (.ok (some b.continuation), t)) ∧
      (¬ L.Accepts b → (∃ e, (persistRecoveryBinding b).run table = (.error e, table)) ∧
        ∀ operations, ((persistRecoveryBinding b).runFor operations table).2 = table) ∧
      ControllerRecoveryBinding.fromDict b.toDict = .ok b := by
  obtain ⟨L, shows⟩ := run_shows actions
  refine ⟨L, shows.recoverContinuation, shows.fromManifest, ?_, ?_, ?_, b.fromDict_toDict⟩
  · intro c own
    refine ⟨_, persistContinuation_eq shows own, ?_⟩
    exact (shows.savedContinuation own (shows.created own)).recoverContinuation
  · intro accepts operations
    have between := (persistRecoveryBinding_throughout shows).runFor operations
    obtain ⟨t, ran, shown⟩ := between.retried shows accepts
    exact ⟨t, ran, shown.recovered rfl rfl rfl, shown.recoverContinuation⟩
  · intro refused
    refine ⟨persistRecoveryBinding_refused shows refused, fun operations => ?_⟩
    exact ((persistRecoveryBinding_throughout shows).runFor operations).resolve_right
      fun written => refused written.1

end Ledgers

/-! ## An advanced continuation -/

@[reducible] def constantHash : Sha256 := ⟨fun _ => 0⟩

theorem zero_nonneg : (0 : Int) ≤ 0 := by decide

/-- A continuation at a sequence number of its controller. -/
def checkpoint (seq : Positive) : ControllerContinuation where
  runId := ⟨"run", by decide⟩
  controllerEpoch := ⟨1, by decide⟩
  phase := .preDispatch
  status := .active
  nextAction := ⟨"DISPATCH", by decide⟩
  controllerMailboxRef := ⟨"controller-box", by decide⟩
  controllerSeq := seq
  executorActor := ⟨"executor", by decide⟩
  executorMailboxRef := ⟨"executor-box", by decide⟩
  expectedExecutorSeq := ⟨1, by decide⟩
  lastSeenExecutorSeq := ⟨0, zero_nonneg⟩
  wakeupBinding := ⟨"wakeup", by decide⟩
  exactHeadSha := ⟨"head", by decide⟩
  updatedAt := ⟨"2026-01-01T00:00:00Z", by decide⟩
  checked := rfl

/-- A mailbox at a cursor, to be read up to a target. -/
def mailbox (actor ref : SafeText) (seen : NonNegative) (target : Positive)
    (later : seen.value ≤ target.value) : MailboxRecoveryRef where
  actor := actor
  mailboxRef := ref
  cursor := ⟨actor.toSolidText, seen, some ⟨ref.value, ne_empty_of_strip ref.solid⟩, none⟩
  targetSeq := target
  checked := by
    simp [MailboxFields.check, ensure_of later]

/-- The binding of that continuation. -/
def bindingAt (seq : Positive) : ControllerRecoveryBinding where
  runId := { value := "run" }
  nodeId := { value := "node" }
  controllerActor := { value := "controller" }
  continuation := checkpoint seq
  ledgerRef := ⟨{ value := "run" }⟩
  controllerMailbox := mailbox { value := "controller" } { value := "controller-box" }
    ⟨seq.value, seq.positive.le⟩ seq le_rfl
  executorMailbox := mailbox { value := "executor" } { value := "executor-box" } ⟨0, zero_nonneg⟩
    ⟨1, by decide⟩ (by decide)
  exactHeadSha := { value := "head" }
  updatedAt := { value := "2026-01-01T00:00:00Z" }
  checked := by
    simp [BindingFields.check, checkpoint, mailbox]

def one : Positive := ⟨1, by decide⟩
def two : Positive := ⟨2, by decide⟩

/-- The first continuation is bound, then the second one persisted. -/
def advancing : List (Action "run") :=
  [.persist (checkpoint one) rfl none, .bind (bindingAt one) rfl none, .persist (checkpoint two) rfl none]

/-- The binding of the durable continuation is refused after an earlier one. -/
theorem advanced_binding_refused :
    (recoverContinuation "run").run (Runs.run (@step constantHash _) {} advancing) =
        (.ok (some (bindingAt two).continuation), Runs.run (@step constantHash _) {} advancing) ∧
      ∃ e, (@persistRecoveryBinding constantHash (bindingAt two)).run
          (Runs.run (@step constantHash _) {} advancing) =
        (.error e, Runs.run (@step constantHash _) {} advancing) := by
  let _ := constantHash
  have unbound : (({} : Ledger).persist (checkpoint one)).Accepts (bindingAt one) := by
    refine ⟨fun c held => (Option.some.inj held).symm, fun other held => ?_⟩
    cases held
  have own (seq : Positive) : (checkpoint seq).runId.value = "run" := rfl
  have ownBinding (seq : Positive) : (bindingAt seq).runId.value = "run" := rfl
  have first := Shows.persisted (shows_empty) (own one)
  have second := first.bound (ownBinding one) unbound
  have shown := second.persisted (own two)
  have steps : Runs.run step {} advancing =
      step (step (step {} (.persist (checkpoint one) (own one) none))
        (.bind (bindingAt one) (ownBinding one) none)) (.persist (checkpoint two) (own two) none) := by
    unfold advancing
    rw [Runs.run_cons, Runs.run_cons, Runs.run_cons, Runs.run_nil]
  rw [steps]
  refine ⟨shown.recoverContinuation, ?_⟩
  refine persistRecoveryBinding_refused (b := bindingAt two) shown fun accepted => ?_
  have same : bindingAt one = bindingAt two := accepted.2 (bindingAt one) rfl
  have seqs : one.value = two.value := congrArg (fun b => b.continuation.controllerSeq.value) same
  exact absurd seqs (by decide)

end DwSuperApps.Guarantees.RecoveryBindings
