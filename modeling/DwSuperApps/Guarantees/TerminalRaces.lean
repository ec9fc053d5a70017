import DwSuperApps.Lib.Runs
import DwSuperApps.Source.TerminalRace

/-!
# A terminal race is sealed once

The callers of one race resolve batches in any order and commit any decision: one
they were returned now or earlier, or one they built. A call that raises leaves the
race as it is. `sealedWinners` keeps the winner of every commit that advanced.

* at most one winner is ever sealed, none when the race started sealed;
* the committed winner is that winner, of the run, node, attempt and lease generation
  the race started with, and newer than the cursor it was sealed over;
* it is never replaced or cleared, and the cursor never decreases (`race_sealed_once`).
-/
namespace DwSuperApps.Guarantees.TerminalRaces

open DwSuperApps.Lib DwSuperApps.Source.TerminalRace

/-- What a caller does with the race. -/
inductive Action where
  | resolve (signals : List SignalInput)
  | commit (decision : Decision)

structure Race where
  state : State
  sealedWinners : List Signal := []

/-- The race after a commit that returned `next`. -/
def Race.sealWith (race : Race) (decision : Decision) (next : State) : Race where
  state := next
  sealedWinners := race.sealedWinners ++
    if decision.stateAdvancing then decision.winner.toList else []

/-- One call on the current state. -/
def step (race : Race) : Action → Race
  | .resolve _ => race
  | .commit decision => (commitTerminalRace race.state decision).toOption.elim race
    (race.sealWith decision)

theorem step_commit {race : Race} {decision : Decision} {next : State}
    (committed : commitTerminalRace race.state decision = .ok next) :
    step race (.commit decision) = race.sealWith decision next := by
  simp only [step, committed, Except.toOption, Option.elim]

theorem step_refused {race : Race} {decision : Decision} {failure : Failure}
    (refused : commitTerminalRace race.state decision = .error failure) :
    step race (.commit decision) = race := by
  simp only [step, refused, Except.toOption, Option.elim]

/-- A step leaves the race, or seals an open one. -/
theorem step_cases (race : Race) (action : Action) :
    step race action = race ∨
    ∃ winner, race.state.committedWinner = none ∧ winner.BoundTo race.state.identity ∧
      race.state.identity.logicalCursor < winner.logicalSeq ∧
      (step race action).state.identity =
        { race.state.identity with logicalCursor := winner.logicalSeq } ∧
      (step race action).state.committedWinner = some winner ∧
      (step race action).sealedWinners = race.sealedWinners ++ [winner] := by
  cases action with
  | resolve signals => exact .inl rfl
  | commit decision =>
    cases committed : commitTerminalRace race.state decision with
    | error failure => exact .inl (step_refused committed)
    | ok next =>
      rw [step_commit committed]
      obtain ⟨still, rfl⟩ | ⟨winner, advances, named, isOpen, bound, newer, identity, winner_set⟩ :=
        commitTerminalRace_cases committed
      · left
        simp [Race.sealWith, still]
      · right
        refine ⟨winner, isOpen, bound, newer, identity, winner_set, ?_⟩
        simp [Race.sealWith, advances, named]

/-- What a race that started as `start` has come to. -/
structure Follows (start : State) (race : Race) : Prop where
  identity : race.state.identity =
    { start.identity with logicalCursor := race.state.identity.logicalCursor }
  cursor : start.identity.logicalCursor ≤ race.state.identity.logicalCursor
  winner : race.state.committedWinner = start.committedWinner.or race.sealedWinners.head?
  once : race.sealedWinners.length ≤ if start.committedWinner.isSome then 0 else 1
  fresh : ∀ winner ∈ race.sealedWinners,
    winner.BoundTo start.identity ∧ start.identity.logicalCursor < winner.logicalSeq

theorem follows_start (start : State) : Follows start { state := start } where
  identity := rfl
  cursor := Nat.le_refl _
  winner := by simp
  once := by simp
  fresh := by simp

theorem follows_step {start : State} (race : Race) (action : Action)
    (follows : Follows start race) : Follows start (step race action) := by
  obtain same | ⟨winner, isOpen, bound, newer, identity, winner_set, winners⟩ :=
    step_cases race action
  · rwa [same]
  · -- an open race has sealed nothing, and it started open
    have both := follows.winner.symm.trans isOpen
    obtain ⟨startOpen, none_sealed⟩ := Option.or_eq_none_iff.mp both
    have empty : race.sealedWinners = [] := List.head?_eq_none_iff.mp none_sealed
    have alone : (step race action).sealedWinners = [winner] := by rw [winners, empty, List.nil_append]
    have ofStart : winner.BoundTo start.identity := by
      rw [follows.identity] at bound
      exact bound
    refine ⟨?_, ?_, ?_, ?_, ?_⟩
    · rw [identity, follows.identity]
    · rw [identity]
      exact Nat.le_of_lt (Nat.lt_of_le_of_lt follows.cursor newer)
    · rw [winner_set, alone, startOpen, Option.none_or, List.head?_cons]
    · rw [alone, startOpen]
      exact Nat.le_refl 1
    · rw [alone]
      intro other member
      obtain rfl := List.mem_singleton.mp member
      exact ⟨ofStart, Nat.lt_of_le_of_lt follows.cursor newer⟩

/-- What later calls leave of an earlier state of the race. -/
structure Kept (earlier later : Race) : Prop where
  winner : ∀ winner, earlier.state.committedWinner = some winner →
    later.state.committedWinner = some winner
  cursor : earlier.state.identity.logicalCursor ≤ later.state.identity.logicalCursor
  winners : earlier.sealedWinners <+: later.sealedWinners

theorem kept_refl (race : Race) : Kept race race :=
  ⟨fun _ committed => committed, Nat.le_refl _, List.prefix_refl _⟩

theorem Kept.trans {first second third : Race} (left : Kept first second)
    (right : Kept second third) : Kept first third :=
  ⟨fun winner committed => right.winner winner (left.winner winner committed),
    Nat.le_trans left.cursor right.cursor, left.winners.trans right.winners⟩

theorem kept_step (race : Race) (action : Action) : Kept race (step race action) := by
  obtain same | ⟨winner, isOpen, -, newer, identity, -, winners⟩ := step_cases race action
  · rw [same]
    exact kept_refl race
  · refine ⟨fun other committed => ?_, ?_, ?_⟩
    · rw [isOpen] at committed
      cases committed
    · rw [identity]
      exact Nat.le_of_lt newer
    · rw [winners]
      exact List.prefix_append _ _

theorem kept_run (race : Race) (actions : List Action) : Kept race (Runs.run step race actions) := by
  induction actions generalizing race with
  | nil => exact kept_refl race
  | cons action rest ih => exact (kept_step race action).trans (ih (step race action))

/-- What holds between a state a race reached and a later one. -/
structure SealedOnce (start : State) (earlier later : Race) : Prop where
  once : later.sealedWinners.length ≤ 1
  untouched : start.committedWinner.isSome → later.sealedWinners = []
  winner : later.state.committedWinner = start.committedWinner.or later.sealedWinners.head?
  current : ∀ winner, later.state.committedWinner = some winner →
    winner.BoundTo later.state.identity ∧
      winner.logicalSeq ≤ later.state.identity.logicalCursor
  newer : ∀ winner ∈ later.sealedWinners, start.identity.logicalCursor < winner.logicalSeq
  identity : later.state.identity =
    { start.identity with logicalCursor := later.state.identity.logicalCursor }
  kept : ∀ winner, earlier.state.committedWinner = some winner →
    later.state.committedWinner = some winner
  cursor : start.identity.logicalCursor ≤ earlier.state.identity.logicalCursor ∧
    earlier.state.identity.logicalCursor ≤ later.state.identity.logicalCursor
  selected : ∀ signals decision, resolveTerminalRace later.state signals = .ok decision →
    (∀ winner, decision.winner = some winner → winner.BoundTo later.state.identity) ∧
    ∀ winner, later.state.committedWinner = some winner →
      decision.winner = some winner ∧ decision.stateAdvancing = false

/-- Every run of resolving and committing on one race. -/
theorem race_sealed_once (start : State) (actions further : List Action) :
    SealedOnce start (Runs.run step { state := start } actions)
      (Runs.run step { state := start } (actions ++ further)) := by
  have reached : ∀ taken, Follows start (Runs.run step { state := start } taken) := fun taken =>
    Runs.run_invariant_of_forall follows_step taken (follows_start start)
  have follows := reached (actions ++ further)
  have kept := kept_run (Runs.run step { state := start } actions) further
  rw [← Runs.run_append] at kept
  refine {
    once := ?_, untouched := ?_, winner := follows.winner, current := ?_,
    newer := fun winner member => (follows.fresh winner member).2, identity := follows.identity,
    kept := kept.winner, cursor := ⟨(reached actions).cursor, kept.cursor⟩, selected := ?_ }
  · have once := follows.once
    split at once
    · exact Nat.le_trans once (Nat.zero_le 1)
    · exact once
  · intro sealed
    have once := follows.once
    rw [if_pos sealed] at once
    exact List.eq_nil_of_length_eq_zero (Nat.le_zero.mp once)
  · intro winner committed
    exact ⟨identityMismatches_nil.mp ((Runs.run step _ _).state.bound winner committed),
      (Runs.run step _ _).state.settled winner committed⟩
  · intro signals decision resolved
    exact ⟨fun winner won => resolveTerminalRace_winner resolved won,
      fun winner committed => resolveTerminalRace_sealed committed resolved⟩

end DwSuperApps.Guarantees.TerminalRaces
