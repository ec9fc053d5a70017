import Mathlib.Data.Prod.Lex
import Mathlib.Data.String.Basic
import DwSuperApps.Lib.Dict
import DwSuperApps.Lib.Json
import DwSuperApps.Lib.Sorted
import DwSuperApps.Source.Fanout

/-!
# Terminal race

`taskcontroller/controlplane/terminal_race.py`. A signal, an evidence, a decision
and a state carry what their constructors check. A batch is a sequence of signals
already built, of mappings, or of something else that is refused.
-/
namespace DwSuperApps.Source.TerminalRace

open DwSuperApps.Lib DwSuperApps.Lib.Checked
open DwSuperApps.Source.Fanout (ChildLifecycle)

/-! ## Failures -/

inductive Code where
  | schemaInvalid | invalidSequence | contractMismatch | emptyEligibleInput | idempotencyConflict
  | noWinner | terminalAlreadyCommitted
  deriving DecidableEq

def Code.value : Code → String
  | .schemaInvalid => "SCHEMA_INVALID"
  | .invalidSequence => "INVALID_SEQUENCE"
  | .contractMismatch => "CONTRACT_MISMATCH"
  | .emptyEligibleInput => "EMPTY_ELIGIBLE_INPUT"
  | .idempotencyConflict => "IDEMPOTENCY_CONFLICT"
  | .noWinner => "NO_WINNER"
  | .terminalAlreadyCommitted => "TERMINAL_ALREADY_COMMITTED"

/-- `TerminalRaceError`. -/
structure Failure where
  code : Code
  text : String
  failedChecks : List String := []
  deriving DecidableEq

def Failure.message (failure : Failure) : String := s!"{failure.code.value}: {failure.text}"

/-! ## Vocabulary -/

/-- `TerminalSignalKind`. -/
inductive Kind where
  | cancellation | timeout | leaseExpiry | childTerminal
  deriving DecidableEq

namespace Kind

def value : Kind → String
  | cancellation => "CANCELLATION"
  | timeout => "TIMEOUT"
  | leaseExpiry => "LEASE_EXPIRY"
  | childTerminal => "CHILD_TERMINAL"

def ofValue? (text : String) : Option Kind :=
  [cancellation, timeout, leaseExpiry, childTerminal].find? (·.value = text)

/-- `_SIGNAL_PRIORITY`: the lower rank wins a tie of sequences. -/
def priority : Kind → Nat
  | cancellation => 0
  | timeout => 1
  | leaseExpiry => 2
  | childTerminal => 3

end Kind

/-- `TerminalRaceDisposition`. -/
inductive Disposition where
  | cancelled | timedOut | leaseExpired | childTerminal
  deriving DecidableEq

/-- `_TERMINAL_CHILD_STATES`. -/
def terminalChildStates : List ChildLifecycle := [.succeeded, .failed, .timedOut, .cancelled]

/-- A text `_text` accepts, stripped. -/
@[ext] structure PlainText where
  value : String
  stripped : strip value = value
  nonempty : value ≠ ""
  noNul : '\x00' ∉ value.toList

instance : DecidableEq PlainText := fun _ _ => decidable_of_iff _ PlainText.ext_iff.symm

/-- A text `_identifier` accepts. -/
@[ext] structure StableId where
  value : String
  identifier : isIdentifier value = true := by decide

instance : DecidableEq StableId := fun _ _ => decidable_of_iff _ StableId.ext_iff.symm

/-! ## Field checks -/

/-- `_text(value, field)`. -/
def text (field : String) (value : Json) : Except Failure PlainText :=
  let refused : Failure := ⟨.schemaInvalid, s!"{field} must be a non-empty text value", []⟩
  match value with
  | .str raw =>
    if nonempty : strip raw ≠ "" then
      if noNul : '\x00' ∉ (strip raw).toList then .ok ⟨strip raw, strip_strip raw, nonempty, noNul⟩
      else .error refused
    else .error refused
  | _ => .error refused

/-- `_identifier(value, field)`. -/
def identifier (field : String) (value : Json) : Except Failure StableId := do
  let normalized ← text field value
  if h : isIdentifier normalized.value then .ok ⟨normalized.value, h⟩
  else .error ⟨.schemaInvalid, s!"{field} must be a stable identifier", []⟩

/-- `_non_negative_int(value, field)`. -/
def nonNegativeInt (field : String) : Json → Except Failure Nat
  | .int n =>
    if n < 0 then .error ⟨.schemaInvalid, s!"{field} must be a non-negative integer", []⟩
    else .ok n.toNat
  | _ => .error ⟨.schemaInvalid, s!"{field} must be a non-negative integer", []⟩

/-- `_positive_sequence(value, field)`. -/
def positiveSequence (field : String) (value : Json) : Except Failure {n : Nat // 0 < n} := do
  let sequence ← nonNegativeInt field value
  if h : sequence = 0 then .error ⟨.invalidSequence, s!"{field} must be greater than zero", []⟩
  else .ok ⟨sequence, Nat.pos_of_ne_zero h⟩

/-- `_kind(value)`. -/
def kindOf (value : Json) : Except Failure Kind :=
  let refused : Failure :=
    ⟨.schemaInvalid, s!"kind is not supported: {value.rawRepr} is not a valid TerminalSignalKind", []⟩
  match value with
  | .str raw => (Kind.ofValue? raw).elim (.error refused) .ok
  | _ => .error refused

/-- `_child_state(value)`. -/
def childState (value : Json) : Except Failure ChildLifecycle :=
  let refused : Failure :=
    ⟨.schemaInvalid, s!"child_status is not supported: {value.rawRepr} is not a valid ChildLifecycle", []⟩
  match value with
  | .str raw => (ChildLifecycle.ofValue? raw).elim (.error refused) .ok
  | _ => .error refused

/-! ## Identity and signals -/

/-- `TerminalRaceIdentity`. -/
structure Identity where
  runId : StableId
  nodeId : StableId
  attemptId : StableId
  leaseGeneration : Nat
  logicalCursor : Nat := 0
  deriving DecidableEq

/-- The child status `TerminalRaceSignal` accepts beside a kind. -/
def childStatusFits : Kind → Option ChildLifecycle → Bool
  | .childTerminal, .some status => terminalChildStates.contains status
  | .childTerminal, .none => false
  | _, status => status.isNone

/-- `TerminalRaceSignal`. -/
@[ext] structure Signal where
  signalId : StableId
  kind : Kind
  runId : StableId
  nodeId : StableId
  attemptId : StableId
  leaseGeneration : Nat
  logicalSeq : Nat
  childStatus : Option ChildLifecycle := .none
  evidenceRef : Option PlainText := .none
  positive : 0 < logicalSeq := by decide
  childFits : childStatusFits kind childStatus = true := by decide

instance : DecidableEq Signal := fun _ _ => decidable_of_iff _ Signal.ext_iff.symm

/-- `TerminalRaceSignal.disposition`. -/
def Signal.disposition (signal : Signal) : Disposition :=
  match signal.kind with
  | .cancellation => .cancelled
  | .timeout => .timedOut
  | .leaseExpiry => .leaseExpired
  | .childTerminal => .childTerminal

/-- The check of `child_status` in `TerminalRaceSignal`. -/
def checkChildStatus (kind : Kind) (value : Json) :
    Except Failure {status : Option ChildLifecycle // childStatusFits kind status = true} :=
  match kind, value with
  | .childTerminal, .null =>
    .error ⟨.schemaInvalid, "child_status is required for CHILD_TERMINAL", []⟩
  | .childTerminal, value => do
    let status ← childState value
    if h : childStatusFits .childTerminal (some status) = true then .ok ⟨some status, h⟩
    else .error ⟨.schemaInvalid, "CHILD_TERMINAL requires a current terminal child status", []⟩
  | .cancellation, .null => .ok ⟨.none, rfl⟩
  | .timeout, .null => .ok ⟨.none, rfl⟩
  | .leaseExpiry, .null => .ok ⟨.none, rfl⟩
  | _, _ => .error ⟨.schemaInvalid, "child_status is only valid for CHILD_TERMINAL", []⟩

def optionalText (field : String) : Json → Except Failure (Option PlainText)
  | .null => .ok .none
  | value => some <$> text field value

/-- The required members, sorted. -/
def requiredFields : List String :=
  ["attempt_id", "kind", "lease_generation", "logical_seq", "node_id", "run_id", "signal_id"]

/-- `_SIGNAL_FIELDS`. -/
def signalFields : List String := requiredFields ++ ["child_status", "evidence_ref"]

/-- A member of the mapping, `None` where it is absent. -/
def field (members : Dict String Json) (name : String) : Json := (members.get? name).getD .null

/-- `TerminalRaceSignal.from_dict(value)`. -/
def Signal.fromDict (members : Dict String Json) : Except Failure Signal := do
  let names := members.entries.map Prod.fst
  let missing := requiredFields.filter (· ∉ names)
  let unknown := Sorted.sortedBy id (names.filter (· ∉ signalFields))
  ensure (missing = []) ⟨.schemaInvalid, "signal is missing: " ++ ", ".intercalate missing, []⟩
  ensure (unknown = [])
    ⟨.schemaInvalid, "unsupported signal fields: " ++ ", ".intercalate unknown, []⟩
  let signalId ← identifier "signal_id" (field members "signal_id")
  let kind ← kindOf (field members "kind")
  let runId ← identifier "run_id" (field members "run_id")
  let nodeId ← identifier "node_id" (field members "node_id")
  let attemptId ← identifier "attempt_id" (field members "attempt_id")
  let leaseGeneration ← nonNegativeInt "lease_generation" (field members "lease_generation")
  let logicalSeq ← positiveSequence "logical_seq" (field members "logical_seq")
  let childStatus ← checkChildStatus kind (field members "child_status")
  let evidenceRef ← optionalText "evidence_ref" (field members "evidence_ref")
  return {
    signalId, kind, runId, nodeId, attemptId, leaseGeneration, evidenceRef
    logicalSeq := logicalSeq.val
    childStatus := childStatus.val
    positive := logicalSeq.property
    childFits := childStatus.property }

/-- One entry of a batch. -/
inductive SignalInput where
  | signal (signal : Signal)
  | object (members : Dict String Json)
  | other

/-- `_coerce_signal(value)`. -/
def coerceSignal : SignalInput → Except Failure Signal
  | .signal signal => .ok signal
  | .object members => Signal.fromDict members
  | .other =>
    .error ⟨.schemaInvalid, "signals must contain TerminalRaceSignal values or objects", []⟩

/-! ## Evidence, decisions and states -/

/-- Why a signal cannot advance the state. -/
inductive Reason where
  | foreignIdentity | attemptMismatch | staleGeneration | staleSequence
  | duplicateSignal | lateAfterCommit | raceLoser
  deriving DecidableEq

def Reason.value : Reason → String
  | .foreignIdentity => "FOREIGN_IDENTITY"
  | .attemptMismatch => "ATTEMPT_MISMATCH"
  | .staleGeneration => "STALE_GENERATION"
  | .staleSequence => "STALE_SEQUENCE"
  | .duplicateSignal => "DUPLICATE_SIGNAL"
  | .lateAfterCommit => "LATE_AFTER_COMMIT"
  | .raceLoser => "RACE_LOSER"

/-- `TerminalRaceEvidence`; it never advances the state and is evidence only. -/
structure Evidence where
  signalId : StableId
  kind : Kind
  logicalSeq : Nat
  reason : Reason
  deriving DecidableEq

/-- `_evidence(signal, reason)`. -/
def evidence (signal : Signal) (reason : Reason) : Evidence :=
  ⟨signal.signalId, signal.kind, signal.logicalSeq, reason⟩

/-- The key evidence is sorted by. -/
def evidenceKey (item : Evidence) : ℕ ×ₗ String ×ₗ String :=
  toLex (item.logicalSeq, toLex (item.reason.value, item.signalId.value))

/-- `TerminalRaceDecision`: the disposition is the winner's, and a decision without
a winner cannot advance. -/
structure Decision where
  winner : Option Signal
  stateAdvancing : Bool
  evidenceOnly : List Evidence := []
  advances : stateAdvancing = true → winner.isSome = true := by simp
  deriving DecidableEq

def Decision.disposition (decision : Decision) : Option Disposition :=
  decision.winner.map Signal.disposition

/-- `_identity_mismatches(signal, identity)`. -/
def identityMismatches (signal : Signal) (identity : Identity) : List String :=
  (if signal.runId ≠ identity.runId then ["run_id"] else []) ++
  (if signal.nodeId ≠ identity.nodeId then ["node_id"] else []) ++
  (if signal.attemptId ≠ identity.attemptId then ["attempt_id"] else []) ++
  (if signal.leaseGeneration ≠ identity.leaseGeneration then ["lease_generation"] else [])

/-- `TerminalRaceState`: a committed winner is of the identity and not newer than its
cursor. -/
structure State where
  identity : Identity
  committedWinner : Option Signal := .none
  bound : ∀ winner ∈ committedWinner, identityMismatches winner identity = [] := by simp
  settled : ∀ winner ∈ committedWinner, winner.logicalSeq ≤ identity.logicalCursor := by simp

/-- `TerminalRaceState(identity=.., committed_winner=winner)`. -/
def State.make (identity : Identity) (winner : Signal) : Except Failure State :=
  if bound : identityMismatches winner identity = [] then
    if settled : winner.logicalSeq ≤ identity.logicalCursor then
      .ok {
        identity
        committedWinner := some winner
        bound := by simpa using bound
        settled := by simpa using settled }
    else .error ⟨.invalidSequence,
      "committed winner cannot be newer than the current logical cursor", []⟩
  else .error ⟨.contractMismatch, "committed winner does not match current identity",
    identityMismatches winner identity⟩

/-- `_classify_ineligible(signal, identity)`. -/
def classifyIneligible (signal : Signal) (identity : Identity) : Option Reason :=
  let mismatches := identityMismatches signal identity
  if "run_id" ∈ mismatches ∨ "node_id" ∈ mismatches then some .foreignIdentity
  else if "attempt_id" ∈ mismatches then some .attemptMismatch
  else if "lease_generation" ∈ mismatches then some .staleGeneration
  else if signal.logicalSeq ≤ identity.logicalCursor then some .staleSequence
  else none

/-- `_winner_key(signal)`. -/
def winnerKey (signal : Signal) : ℤ ×ₗ ℕ ×ₗ String :=
  toLex (-(signal.logicalSeq : ℤ), toLex (signal.kind.priority, signal.signalId.value))

/-! ## Selection and commit -/

/-- What the loop over the batch has: the distinct signals in order and the evidence
of their repetitions. -/
structure Collected where
  normalized : List Signal := []
  repeated : List Evidence := []

/-- One pass of the loop. -/
def collectOne (sofar : Collected) (raw : SignalInput) : Except Failure Collected := do
  let signal ← coerceSignal raw
  match sofar.normalized.find? (·.signalId = signal.signalId) with
  | some prior =>
    if prior = signal then
      .ok { sofar with repeated := sofar.repeated ++ [evidence signal .duplicateSignal] }
    else .error ⟨.idempotencyConflict,
      s!"conflicting duplicate signal_id: {signal.signalId.value}", ["signal_id"]⟩
  | none => .ok { sofar with normalized := sofar.normalized ++ [signal] }

/-- The reason a signal is evidence once `winner` is committed. -/
def lateReason (winner : Signal) (identity : Identity) (signal : Signal) : Reason :=
  if signal = winner then .duplicateSignal
  else (classifyIneligible signal identity).getD .lateAfterCommit

/-- The decision on a sealed race. -/
def sealedDecision (identity : Identity) (winner : Signal) (collected : Collected) : Decision where
  winner := some winner
  stateAdvancing := false
  evidenceOnly := Sorted.sortedBy evidenceKey (collected.repeated ++
    collected.normalized.map fun signal => evidence signal (lateReason winner identity signal))

/-- The signals that may win. -/
def eligible (identity : Identity) (signals : List Signal) : List Signal :=
  signals.filter fun signal => (classifyIneligible signal identity).isNone

/-- The evidence of the signals that may not, in order. -/
def ineligible (identity : Identity) (signals : List Signal) : List Evidence :=
  signals.filterMap fun signal => (classifyIneligible signal identity).map (evidence signal)

/-- The decision on an open race. -/
def openDecision (identity : Identity) (collected : Collected) : Decision :=
  let refused := collected.repeated ++ ineligible identity collected.normalized
  let competing := eligible identity collected.normalized
  match (Sorted.sortedBy winnerKey competing).head? with
  | none => { winner := none, stateAdvancing := false, evidenceOnly := refused }
  | some winner =>
    let losers := competing.filter fun signal => decide (signal ≠ winner)
    { winner := some winner
      stateAdvancing := true
      evidenceOnly := Sorted.sortedBy evidenceKey
        (refused ++ losers.map fun signal => evidence signal .raceLoser) }

/-- `resolve_terminal_race(state, signals)`. -/
def resolveTerminalRace (state : State) (signals : List SignalInput) : Except Failure Decision := do
  ensure (signals ≠ [])
    ⟨.emptyEligibleInput, "at least one terminal signal is required", []⟩
  let collected ← signals.foldlM collectOne {}
  match state.committedWinner with
  | some winner => return sealedDecision state.identity winner collected
  | none => return openDecision state.identity collected

/-- `commit_terminal_race(state, decision)`. -/
def commitTerminalRace (state : State) (decision : Decision) : Except Failure State :=
  if decision.stateAdvancing = false then .ok state
  else match decision.winner with
    | none => .error ⟨.noWinner, "state-advancing decision requires a winner", []⟩
    | some winner => do
      ensure (state.committedWinner = none)
        ⟨.terminalAlreadyCommitted, "terminal race is already committed", []⟩
      ensure (identityMismatches winner state.identity = [])
        ⟨.contractMismatch, "winner does not match current identity",
          identityMismatches winner state.identity⟩
      ensure (state.identity.logicalCursor < winner.logicalSeq)
        ⟨.invalidSequence, "winner sequence is not newer than the current cursor", []⟩
      State.make { state.identity with logicalCursor := winner.logicalSeq } winner

/-! ## What the functions give -/

/-- The signal is bound to the run, node, attempt and lease generation of the identity. -/
def Signal.BoundTo (signal : Signal) (identity : Identity) : Prop :=
  signal.runId = identity.runId ∧ signal.nodeId = identity.nodeId ∧
    signal.attemptId = identity.attemptId ∧ signal.leaseGeneration = identity.leaseGeneration

theorem identityMismatches_nil {signal : Signal} {identity : Identity} :
    identityMismatches signal identity = [] ↔ signal.BoundTo identity := by
  unfold identityMismatches Signal.BoundTo
  simp only [List.append_eq_nil_iff, ite_eq_right_iff, List.cons_ne_nil, imp_false, not_not,
    and_assoc, ne_eq]

/-- Moving the cursor changes no identity check. -/
theorem identityMismatches_cursor (signal : Signal) (identity : Identity) (cursor : Nat) :
    identityMismatches signal { identity with logicalCursor := cursor } =
      identityMismatches signal identity := rfl

theorem classifyIneligible_none {signal : Signal} {identity : Identity} :
    classifyIneligible signal identity = none ↔
      signal.BoundTo identity ∧ identity.logicalCursor < signal.logicalSeq := by
  unfold classifyIneligible
  by_cases bound : identityMismatches signal identity = []
  · simp [bound, identityMismatches_nil.mp bound]
  · have unbound : ¬ signal.BoundTo identity := fun h => bound (identityMismatches_nil.mpr h)
    have some_field : "run_id" ∈ identityMismatches signal identity ∨
        "node_id" ∈ identityMismatches signal identity ∨
        "attempt_id" ∈ identityMismatches signal identity ∨
        "lease_generation" ∈ identityMismatches signal identity := by
      by_contra absent
      refine unbound ⟨?_, ?_, ?_, ?_⟩ <;>
      · by_contra different
        exact absent (by simp [identityMismatches, different])
    simp only [unbound, false_and, iff_false]
    split_ifs with foreign attempt generation stale
    · simp
    · simp
    · simp
    · simp
    · rcases some_field with run | node | attempt' | generation'
      · exact absurd (.inl run) foreign
      · exact absurd (.inr node) foreign
      · exact absurd attempt' attempt
      · exact absurd generation' generation

theorem mem_eligible {signal : Signal} {identity : Identity} {signals : List Signal} :
    signal ∈ eligible identity signals ↔ signal ∈ signals ∧ signal.BoundTo identity ∧
      identity.logicalCursor < signal.logicalSeq := by
  simp [eligible, Option.isNone_iff_eq_none, classifyIneligible_none]

/-- The winner of an open race is a current signal of the batch. -/
theorem openDecision_winner {identity : Identity} {collected : Collected} {winner : Signal}
    (won : (openDecision identity collected).winner = some winner) :
    winner ∈ collected.normalized ∧ winner.BoundTo identity ∧
      identity.logicalCursor < winner.logicalSeq := by
  unfold openDecision at won
  simp only at won
  split at won
  · cases won
  · next first found =>
    cases won
    exact mem_eligible.mp (Sorted.mem_sortedBy.mp (List.mem_of_mem_head? found))

/-- `resolve_terminal_race` on a sealed race returns the sealed winner and does not advance. -/
theorem resolveTerminalRace_sealed {state : State} {winner : Signal} {signals : List SignalInput}
    {decision : Decision} (sealed : state.committedWinner = some winner)
    (resolved : resolveTerminalRace state signals = .ok decision) :
    decision.winner = some winner ∧ decision.stateAdvancing = false := by
  unfold resolveTerminalRace at resolved
  rw [sealed] at resolved
  obtain ⟨-, -, rest⟩ := bind_ok.mp resolved
  obtain ⟨collected, -, final⟩ := bind_ok.mp rest
  cases final
  exact ⟨rfl, rfl⟩

/-- Every winner `resolve_terminal_race` names is bound to the current identity. -/
theorem resolveTerminalRace_winner {state : State} {signals : List SignalInput}
    {decision : Decision} {winner : Signal}
    (resolved : resolveTerminalRace state signals = .ok decision)
    (won : decision.winner = some winner) : winner.BoundTo state.identity := by
  cases committed : state.committedWinner with
  | some sealed =>
    obtain ⟨same, -⟩ := resolveTerminalRace_sealed committed resolved
    obtain rfl : sealed = winner := Option.some.inj (same.symm.trans won)
    exact identityMismatches_nil.mp (state.bound sealed committed)
  | none =>
    unfold resolveTerminalRace at resolved
    rw [committed] at resolved
    obtain ⟨-, -, rest⟩ := bind_ok.mp resolved
    obtain ⟨collected, -, final⟩ := bind_ok.mp rest
    cases final
    exact (openDecision_winner won).2.1

theorem make_ok {identity : Identity} {winner : Signal} {state : State}
    (made : State.make identity winner = .ok state) :
    state.identity = identity ∧ state.committedWinner = some winner := by
  unfold State.make at made
  split_ifs at made
  cases made
  exact ⟨rfl, rfl⟩

theorem exists_make {identity : Identity} {winner : Signal}
    (bound : identityMismatches winner identity = [])
    (settled : winner.logicalSeq ≤ identity.logicalCursor) :
    ∃ state, State.make identity winner = .ok state := by
  unfold State.make
  rw [dif_pos bound, dif_pos settled]
  exact ⟨_, rfl⟩

/-- A commit changes nothing, or seals an open race with a winner of its identity that
is newer than its cursor. -/
theorem commitTerminalRace_cases {state next : State} {decision : Decision}
    (committed : commitTerminalRace state decision = .ok next) :
    decision.stateAdvancing = false ∧ next = state ∨
    ∃ winner, decision.stateAdvancing = true ∧ decision.winner = some winner ∧
      state.committedWinner = none ∧ winner.BoundTo state.identity ∧
      state.identity.logicalCursor < winner.logicalSeq ∧
      next.identity = { state.identity with logicalCursor := winner.logicalSeq } ∧
      next.committedWinner = some winner := by
  unfold commitTerminalRace at committed
  split_ifs at committed with still
  · cases committed
    exact .inl ⟨still, rfl⟩
  · cases named : decision.winner with
    | none =>
      rw [named] at committed
      cases committed
    | some winner =>
      rw [named] at committed
      obtain ⟨_, isOpen, committed⟩ := bind_ok.mp committed
      obtain ⟨_, bound, committed⟩ := bind_ok.mp committed
      obtain ⟨_, newer, committed⟩ := bind_ok.mp committed
      obtain ⟨identity, sealed⟩ := make_ok committed
      exact .inr ⟨winner, Bool.not_eq_false _ ▸ still, rfl, ensure_ok.mp isOpen,
        identityMismatches_nil.mp (ensure_ok.mp bound), ensure_ok.mp newer, identity, sealed⟩

/-- The decision of an open race, committed in the state it was resolved in, is accepted. -/
theorem commit_resolved {state : State} {signals : List SignalInput} {decision : Decision}
    (resolved : resolveTerminalRace state signals = .ok decision) :
    ∃ next, commitTerminalRace state decision = .ok next := by
  cases committed : state.committedWinner with
  | some sealed =>
    obtain ⟨-, still⟩ := resolveTerminalRace_sealed committed resolved
    exact ⟨state, if_pos still⟩
  | none =>
    by_cases still : decision.stateAdvancing = false
    · exact ⟨state, if_pos still⟩
    · obtain ⟨winner, named⟩ :=
        Option.isSome_iff_exists.mp (decision.advances (Bool.not_eq_false _ ▸ still))
      unfold resolveTerminalRace at resolved
      rw [committed] at resolved
      obtain ⟨-, -, rest⟩ := bind_ok.mp resolved
      obtain ⟨collected, -, final⟩ := bind_ok.mp rest
      cases final
      obtain ⟨-, bound, newer⟩ := openDecision_winner named
      have agrees := identityMismatches_nil.mpr bound
      unfold commitTerminalRace
      rw [if_neg still, named]
      obtain ⟨next, made⟩ := @exists_make { state.identity with
        logicalCursor := winner.logicalSeq } winner agrees (Nat.le_refl _)
      refine ⟨next, (bind_of (ensure_of committed _) _).trans ?_⟩
      refine (bind_of (ensure_of agrees _) _).trans ?_
      exact (bind_of (ensure_of newer _) _).trans made

end DwSuperApps.Source.TerminalRace
