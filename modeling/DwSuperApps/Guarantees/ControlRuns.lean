import DwSuperApps.Lib.Runs
import DwSuperApps.Source.ControlActions

/-!
# Runs of a control state

What any sequence of actions and work unit starts keeps of a control state
(`control_runs`): its run and evidence, that it is halted, and the boundary it was stopped
at as long as neither a pause nor a stop is accepted. An action is accepted by its run, its
revision and its boundary alone, whether it is offered or not.
-/
namespace DwSuperApps.Guarantees.ControlRuns

open DwSuperApps.Lib DwSuperApps.Lib.Checked DwSuperApps.Lib.Runs
open DwSuperApps.Source.Control

/-! ## One call -/

/-- The action is accepted. -/
def Accepted (s : MvpControlState) (request : Request) (resolve : SafeBoundaryResolver) : Prop :=
  ∃ result, applyPublicAction request s resolve = .ok result

/-- What the acceptance of a request depends on. -/
structure Due (s : MvpControlState) (request : PublicActionRequest) (resolve : SafeBoundaryResolver) :
    Prop where
  run : request.runId = s.runId
  current : ∀ expected ∈ request.expectedRevision, expected = s.revision
  bounded : request.action ∉ authorityActions → ∃ found, resolve s = .ok (.boundary found)

theorem resolved_ok {action : Action} {s : MvpControlState} {resolve : SafeBoundaryResolver}
    {found : SafeBoundary} : resolved action s resolve = .ok found ↔ resolve s = .ok (.boundary found) := by
  unfold resolved
  rw [bind_ok]
  constructor
  · rintro ⟨answer, asked, passed⟩
    cases answer with
    | boundary other =>
      cases passed
      exact asked
    | unrepresentable => cases passed
    | foreign => cases passed
  · exact fun asked => ⟨_, asked, rfl⟩

/-- What an accepted action comes to. -/
theorem apply_ok {request : Request} {s : MvpControlState} {resolve : SafeBoundaryResolver}
    {result : PublicActionResult} (applied : applyPublicAction request s resolve = .ok result) :
    ∃ r, request.read = .ok r ∧ Due s r resolve ∧
      ((r.action ∈ authorityActions ∧ result.state = s) ∨
        ∃ found, r.action ∉ authorityActions ∧ resolve s = .ok (.boundary found) ∧
          result = controlled r.action s found) := by
  unfold applyPublicAction at applied
  obtain ⟨r, read, applied⟩ := bind_ok.mp applied
  obtain ⟨_, run, applied⟩ := bind_ok.mp applied
  obtain ⟨_, current, applied⟩ := bind_ok.mp applied
  refine ⟨r, read, ?_⟩
  split at applied
  · next authority =>
    cases applied
    exact ⟨⟨ensure_ok.mp run, ensure_ok.mp current, fun other => absurd authority other⟩, .inl ⟨authority, rfl⟩⟩
  · next control =>
    obtain ⟨found, asked, made⟩ := bind_ok.mp applied
    cases made
    have answer := resolved_ok.mp asked
    exact ⟨⟨ensure_ok.mp run, ensure_ok.mp current, fun _ => ⟨found, answer⟩⟩, .inr ⟨found, control, answer, rfl⟩⟩

theorem accepted_iff {s : MvpControlState} {request : Request} {resolve : SafeBoundaryResolver} :
    Accepted s request resolve ↔ ∃ r, request.read = .ok r ∧ Due s r resolve := by
  constructor
  · rintro ⟨result, applied⟩
    obtain ⟨r, read, due, -⟩ := apply_ok applied
    exact ⟨r, read, due⟩
  · rintro ⟨r, read, due⟩
    unfold Accepted applyPublicAction
    rw [read, ok_bind, ensure_of due.run, ok_bind, ensure_of due.current, ok_bind]
    split
    · exact ⟨_, rfl⟩
    · next control =>
      obtain ⟨found, asked⟩ := due.bounded control
      rw [bind_of (resolved_ok.mpr asked)]
      exact ⟨_, rfl⟩

theorem start_ok {s t : MvpControlState} {workUnitId : Json} (started : startWorkUnit s workUnitId = .ok t) :
    ¬ s.halted ∧ t.disposition = s.disposition ∧ t.runId = s.runId ∧ t.evidence = s.evidence ∧
      t.revision = s.revision + 1 ∧ t.stoppedAt = s.stoppedAt := by
  unfold startWorkUnit at started
  split at started
  · split at started
    · split at started
      · cases started
      · next free =>
        cases started
        exact ⟨free, rfl, rfl, rfl, rfl, rfl⟩
    · cases started
  · cases started

/-- What a call can do to a state: nothing, a stop, a pause, or a new work unit. -/
theorem step_cases (s : MvpControlState) (c : Call) :
    step s c = s ∨
    (∃ request resolve found, c = .action request resolve ∧ Accepted s request resolve ∧
      (∃ r, request.read = .ok r ∧ r.action = .stop) ∧ resolve s = .ok (.boundary found) ∧
      step s c = { s with disposition := .stopped, stoppedAt := some found, revision := s.revision + 1 }) ∨
    (∃ request resolve found, c = .action request resolve ∧ Accepted s request resolve ∧
      (∃ r, request.read = .ok r ∧ r.action = .pause) ∧
      step s c = { s with disposition := .paused, pausedAt := some found, revision := s.revision + 1 }) ∨
    (¬ s.halted ∧ (step s c).disposition = s.disposition ∧ (step s c).runId = s.runId ∧
      (step s c).evidence = s.evidence ∧ (step s c).revision = s.revision + 1 ∧
      (step s c).stoppedAt = s.stoppedAt) := by
  cases c with
  | action request resolve =>
    unfold step
    dsimp only
    cases applied : applyPublicAction request s resolve with
    | error e => exact .inl rfl
    | ok result =>
      obtain ⟨r, read, -, ⟨-, same⟩ | ⟨found, control, asked, made⟩⟩ := apply_ok applied
      · exact .inl same
      · have accepted : Accepted s request resolve := ⟨result, applied⟩
        cases act : r.action with
        | stop =>
          refine .inr (.inl ⟨request, resolve, found, rfl, accepted, ⟨r, read, act⟩, asked, ?_⟩)
          rw [made, act]
          rfl
        | pause =>
          refine .inr (.inr (.inl ⟨request, resolve, found, rfl, accepted, ⟨r, read, act⟩, ?_⟩))
          rw [made, act]
          rfl
        | approve => exact absurd (by rw [act]; decide) control
        | merge => exact absurd (by rw [act]; decide) control
  | start workUnitId =>
    unfold step
    dsimp only
    cases started : startWorkUnit s workUnitId with
    | error e => exact .inl rfl
    | ok t => exact .inr (.inr (.inr (start_ok started)))

/-! ## Runs -/

/-- The call is an accepted pause or stop. -/
def Controls (s : MvpControlState) (c : Call) : Prop :=
  ∃ request resolve, c = .action request resolve ∧ Accepted s request resolve ∧
    ∃ r, request.read = .ok r ∧ r.action ∉ authorityActions

/-- The call is an accepted pause. -/
def Pauses (s : MvpControlState) (c : Call) : Prop :=
  ∃ request resolve, c = .action request resolve ∧ Accepted s request resolve ∧
    ∃ r, request.read = .ok r ∧ r.action = .pause

/-- The caller gave no resolver of its own. -/
def Plain : Call → Prop
  | .action _ resolve => resolve = defaultResolver
  | .start _ => True

/-- What a call keeps of the state it is made on. -/
structure Kept (s : MvpControlState) (c : Call) : Prop where
  run : (step s c).runId = s.runId
  evidence : (step s c).evidence = s.evidence
  /-- A change is told by the revision. -/
  revision : step s c = s ∨ (step s c).revision = s.revision + 1
  halted : s.halted → (step s c).halted ∧ (step s c).currentWorkUnit = s.currentWorkUnit
  stopped : s.isStopped → ¬ Controls s c → (step s c).isStopped ∧ (step s c).stoppedAt = s.stoppedAt
  /-- Whether it is offered does not count. -/
  accepted : ∀ request resolve, c = .action request resolve →
    (Accepted s request resolve ↔ ∃ r, request.read = .ok r ∧ Due s r resolve)

theorem step_kept (s : MvpControlState) (c : Call) : Kept s c := by
  have acceptance : ∀ request resolve, c = .action request resolve →
      (Accepted s request resolve ↔ ∃ r, request.read = .ok r ∧ Due s r resolve) :=
    fun _ _ _ => accepted_iff
  rcases step_cases s c with same | ⟨request, resolve, found, shape, accepted, ⟨r, read, act⟩, -, made⟩ |
    ⟨request, resolve, found, shape, accepted, ⟨r, read, act⟩, made⟩ | ⟨free, disposition, run, evidence, revision, -⟩
  · exact ⟨by rw [same], by rw [same], .inl same, fun h => by rw [same]; exact ⟨h, rfl⟩,
      fun h _ => by rw [same]; exact ⟨h, rfl⟩, acceptance⟩
  · refine ⟨by rw [made], by rw [made], .inr (by rw [made]), fun _ => by rw [made]; exact ⟨.inr rfl, rfl⟩, ?_, acceptance⟩
    intro _ other
    exact absurd ⟨request, resolve, shape, accepted, r, read, by rw [act]; decide⟩ other
  · refine ⟨by rw [made], by rw [made], .inr (by rw [made]), fun _ => by rw [made]; exact ⟨.inl rfl, rfl⟩, ?_, acceptance⟩
    intro _ other
    exact absurd ⟨request, resolve, shape, accepted, r, read, by rw [act]; decide⟩ other
  · exact ⟨run, evidence, .inr revision, fun h => absurd h free, fun h _ => absurd (.inr h) free, acceptance⟩

/-- A state the default resolver stopped: the boundary is the end of its work unit. -/
def StoppedByDefault (s : MvpControlState) : Prop := s.isStopped ∧ s.stoppedAt = defaultSafeBoundary s

theorem defaultSafeBoundary_congr {s t : MvpControlState} (same : s.currentWorkUnit = t.currentWorkUnit) :
    defaultSafeBoundary s = defaultSafeBoundary t := by
  obtain ⟨_, _, unit, _, _, _, _, _, _, _⟩ := s
  obtain ⟨_, _, unit', _, _, _, _, _, _, _⟩ := t
  change unit = unit' at same
  subst same
  rfl

theorem defaultResolver_ok {s : MvpControlState} {found : SafeBoundary}
    (asked : defaultResolver s = .ok (.boundary found)) : defaultSafeBoundary s = some found := by
  unfold defaultResolver at asked
  cases bound : defaultSafeBoundary s with
  | none =>
    rw [bound] at asked
    cases asked
  | some other =>
    rw [bound] at asked
    cases asked
    rfl

/-- Stopped again without a resolver, a state keeps its boundary. -/
theorem stoppedByDefault_step {s : MvpControlState} {c : Call} (stopped : StoppedByDefault s) (plain : Plain c)
    (other : ¬ Pauses s c) : StoppedByDefault (step s c) ∧ (step s c).stoppedAt = s.stoppedAt := by
  rcases step_cases s c with same | ⟨request, resolve, found, shape, -, -, asked, made⟩ |
    ⟨request, resolve, found, shape, accepted, ⟨r, read, act⟩, -⟩ | ⟨free, -⟩
  · rw [same]
    exact ⟨stopped, rfl⟩
  · subst shape
    obtain rfl : resolve = defaultResolver := plain
    have bound := defaultResolver_ok asked
    rw [made]
    refine ⟨⟨rfl, ?_⟩, ?_⟩
    · rw [← bound]
      exact defaultSafeBoundary_congr rfl
    · rw [stopped.2, bound]
  · exact absurd ⟨request, resolve, shape, accepted, r, read, act⟩ other
  · exact absurd (.inr stopped.1) free

/-- Over every sequence of calls. -/
theorem control_runs (s : MvpControlState) (calls : List Call) :
    Along step Kept s calls ∧
      (run step s calls).evidence = s.evidence ∧
      (run step s calls = s ∨ s.revision < (run step s calls).revision) ∧
      (s.halted → (run step s calls).halted ∧ (run step s calls).currentWorkUnit = s.currentWorkUnit) ∧
      (StoppedByDefault s → Along step (fun t c => Plain c ∧ ¬ Pauses t c) s calls →
        (run step s calls).isStopped ∧ (run step s calls).stoppedAt = s.stoppedAt) := by
  induction calls generalizing s with
  | nil => exact ⟨trivial, rfl, .inl rfl, fun h => ⟨h, rfl⟩, fun stopped _ => ⟨stopped.1, rfl⟩⟩
  | cons c rest ih =>
    obtain ⟨along, evidence, revision, halted, stopped⟩ := ih (step s c)
    have kept := step_kept s c
    refine ⟨⟨kept, along⟩, evidence.trans kept.evidence, ?_, ?_, ?_⟩
    · rw [run_cons]
      rcases kept.revision with same | more <;> rcases revision with still | later
      · exact .inl (still.trans same)
      · exact .inr (lt_of_le_of_lt (by rw [same]) later)
      · exact .inr (by rw [still, more]; exact Nat.lt_succ_self _)
      · exact .inr (by omega)
    · intro h
      obtain ⟨still, unit⟩ := kept.halted h
      obtain ⟨later, same⟩ := halted still
      exact ⟨later, same.trans unit⟩
    · rintro default ⟨⟨plain, other⟩, after⟩
      obtain ⟨still, boundary⟩ := stoppedByDefault_step default plain other
      obtain ⟨later, same⟩ := stopped still after
      exact ⟨later, same.trans boundary⟩

/-- What a control state offers, its root card offers as well. -/
theorem offered_on_card (s : MvpControlState) (authorityBoundary mergeReady : Bool) :
    ∀ action ∈ contextualActions s authorityBoundary mergeReady,
      action ∈ cardActions (decide s.halted) authorityBoundary mergeReady := by
  intro action offered
  unfold contextualActions at offered
  unfold cardActions
  obtain ⟨listed, allowed⟩ := List.mem_filter.mp offered
  refine List.mem_filter.mpr ⟨listed, ?_⟩
  cases action with
  | stop => rfl
  | pause => exact allowed
  | approve => exact allowed
  | merge => exact allowed

def stoppedState : MvpControlState where
  runId := "R"
  disposition := .stopped
  currentWorkUnit := some "S"
  revision := 1
  named := by decide
  working := by decide
  evident := by decide

/-- A stopped state accepts a stop and a pause that it does not offer, and is no longer
stopped after the pause. -/
theorem accepted_unoffered :
    contextualActions stoppedState true true = [.approve, .merge] ∧
      Accepted stoppedState (.typed ⟨.stop, "R", none, by decide⟩) defaultResolver ∧
      (step stoppedState (.action (.typed ⟨.pause, "R", none, by decide⟩) defaultResolver)).disposition =
        .paused := by
  refine ⟨by decide, ?_, rfl⟩
  exact accepted_iff.mpr ⟨_, rfl, ⟨rfl, fun _ impossible => (nomatch impossible), fun _ => ⟨_, rfl⟩⟩⟩

end DwSuperApps.Guarantees.ControlRuns
