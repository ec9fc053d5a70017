import DwSuperApps.Guarantees.WakeupRuns

/-!
# Projection of wakeup deliveries

The projection reads the state of an intent next to the state of its last attempt. The
two agree in every run in which no BLOCKED intent is retried and no delivery gives up an
intent whose attempts are already used up: the first leaves a BLOCKED attempt behind a
PENDING intent, the second blocks an intent without an attempt that says so.
-/
namespace DwSuperApps.Guarantees.WakeupProjection

open DwSuperApps.Lib DwSuperApps.Lib.Checked
open DwSuperApps.Lib.Programs (Prog)
open DwSuperApps.Source.Envelope DwSuperApps.Source.Wakeup DwSuperApps.Source.WakeupIntents
open DwSuperApps.Guarantees.WakeupFinality (count summarized sameTime plainWorker smsWorker)
open DwSuperApps.Guarantees.WakeupRuns

/-! ## Explained states -/

/-- The states of an intent that the projection accepts next to its last attempt. -/
def Explains : IntentState → Option AttemptState → Prop
  | .pending, last => last = none ∨ last = some .started ∨ last = some .failed
  | .inFlight, last => last = some .started ∨ last = some .failed
  | .failed, last => last = some .started ∨ last = some .failed
  | .delivered, last => last = some .delivered
  | .blocked, last => last = some .blocked

theorem explains_recorded (state : AttemptState) : Explains state.intentState (some state) := by
  cases state with
  | started => exact .inl rfl
  | delivered => exact rfl
  | failed => exact .inr rfl
  | blocked => exact rfl

/-- An intent that is neither DELIVERED nor BLOCKED may be retried. -/
theorem Explains.retried {state : IntentState} {last : Option AttemptState}
    (explains : Explains state last) (undelivered : state ≠ .delivered)
    (unblocked : state ≠ .blocked) : Explains .pending last := by
  cases state with
  | pending => exact explains
  | inFlight => exact .inr explains
  | failed => exact .inr explains
  | delivered => exact absurd rfl undelivered
  | blocked => exact absurd rfl unblocked

/-- An intent that counts its attempts and agrees with the last of them. -/
inductive Explained : Track → Prop
  | absent : Explained (none, [])
  | present {intent : WakeupIntent} {rows : List WakeupDeliveryAttempt}
      (counted : intent.attemptCount = rows.length) (shown : Shown intent)
      (explains : Explains intent.state (rows.getLast?.map (·.state))) :
      Explained (some intent, rows)

theorem explained_created {rows : List WakeupDeliveryAttempt} {intent : WakeupIntent}
    (explained : Explained (none, rows)) (pending : intent.state = .pending)
    (unused : intent.attemptCount = 0) (shown : Shown intent) : Explained (some intent, rows) := by
  cases explained
  refine .present unused shown ?_
  rw [pending]
  exact .inl rfl

theorem explained_recorded {rows : List WakeupDeliveryAttempt} {intent : WakeupIntent}
    {a : WakeupDeliveryAttempt} (follows : Follows intent rows a)
    (explained : Explained (some intent, rows)) :
    Explained (some (summarized intent a), rows ++ [a]) := by
  obtain - | ⟨_, shown, _⟩ := explained
  refine .present ?_ ⟨shown.1, ?_⟩ ?_
  · rw [List.length_append, List.length_singleton, ← follows.next]
    rfl
  · have checked := follows.checked
    obtain ⟨_, _, checked⟩ := bind_ok.mp checked
    obtain ⟨_, _, checked⟩ := bind_ok.mp checked
    obtain ⟨_, _, checked⟩ := bind_ok.mp checked
    obtain ⟨_, _, checked⟩ := bind_ok.mp checked
    obtain ⟨_, retry, _⟩ := bind_ok.mp checked
    exact optionalText_ok.mp retry
  · rw [List.getLast?_concat]
    exact explains_recorded a.state

theorem explained_retried {rows : List WakeupDeliveryAttempt} {intent : WakeupIntent}
    {retryAt : String} (undelivered : intent.state ≠ .delivered)
    (unblocked : intent.state ≠ .blocked) (timed : strip retryAt ≠ "")
    (explained : Explained (some intent, rows)) :
    Explained (some (retried intent retryAt), rows) := by
  obtain - | ⟨counted, shown, explains⟩ := explained
  refine .present counted ⟨shown.1, ?_⟩ (explains.retried undelivered unblocked)
  intro text same
  obtain rfl := Option.some.inj same
  exact timed

/-! ## The projection of an explained intent -/

theorem strip_of_first {s : String} {c : Char} (first : s.toList.head? = some c)
    (solid : isSpace c = false) : strip s ≠ "" := by
  intro empty
  have blank := strip_empty.mp empty c (List.mem_of_mem_head? first)
  rw [solid] at blank
  cases blank

theorem projectionStatus_ok {intent : WakeupIntent} {last : Option WakeupDeliveryAttempt}
    (explains : Explains intent.state (last.map (·.state))) :
    ∃ delivery executor detail, projectionStatus intent last = .ok (delivery, executor, detail) ∧
      strip detail ≠ "" := by
  have worded (a b : String) (c : Char) (first : b.toList.head? = some c)
      (solid : isSpace c = false) : strip (a ++ b) ≠ "" :=
    strip_append (.inr (strip_of_first first solid))
  unfold projectionStatus
  generalize last.map (·.state) = seen at explains
  cases state : intent.state with
  | pending =>
    rw [state] at explains
    rcases explains with rfl | rfl | rfl
    · exact ⟨_, _, _, rfl, worded _ _ 'w' rfl rfl⟩
    · exact ⟨_, _, _, rfl, worded _ _ 'E' rfl rfl⟩
    · exact ⟨_, _, _, rfl, worded _ _ 'E' rfl rfl⟩
  | inFlight =>
    rw [state] at explains
    rcases explains with rfl | rfl
    · exact ⟨_, _, _, rfl, worded _ _ 'E' rfl rfl⟩
    · exact ⟨_, _, _, rfl, worded _ _ 'E' rfl rfl⟩
  | failed =>
    rw [state] at explains
    rcases explains with rfl | rfl
    · exact ⟨_, _, _, rfl, worded _ _ 'E' rfl rfl⟩
    · exact ⟨_, _, _, rfl, worded _ _ 'E' rfl rfl⟩
  | delivered =>
    rw [state] at explains
    obtain rfl : seen = _ := explains
    exact ⟨_, _, _, rfl, worded _ _ 'E' rfl rfl⟩
  | blocked =>
    rw [state] at explains
    obtain rfl : seen = _ := explains
    exact ⟨_, _, _, rfl, worded _ _ 'W' rfl rfl⟩

/-- The rows of an intent stand at their numbers. -/
theorem rows_numbered (o : WakeupOutbox) (intentId : String) {a : WakeupDeliveryAttempt} {n : Nat}
    (member : (a, n) ∈ (rowsOf o.attempts intentId).zipIdx 1) :
    a.intentId = intentId ∧ a.attemptNumber = n := by
  obtain ⟨first, place⟩ := List.mk_mem_zipIdx_iff_le_and_getElem?_sub.mp member
  have own := List.mem_filter.mp (List.mem_of_getElem? place)
  have numbers := congrArg (·[n - 1]?) (o.contiguous intentId)
  have inside := (List.getElem?_eq_some_iff.mp place).1
  simp only [List.getElem?_map, place, Option.map_some, List.getElem?_range' inside] at numbers
  refine ⟨of_decide_eq_true own.2, ?_⟩
  have number := Option.some.inj numbers
  omega

theorem rows_checked {o : WakeupOutbox} {intentId : String} {intent : WakeupIntent}
    (held : o.intents intentId = some intent) :
    checkAll (fun (attempt, expectedNumber) => do
        ensure (attempt.intentId = intent.intentId)
          (validationError "wakeup projection attempt is not bound to the intent")
        ensure (attempt.attemptNumber = expectedNumber)
          (validationError "wakeup projection attempts must be contiguous"))
      ((rowsOf o.attempts intentId).zipIdx 1) = .ok () := by
  have key : intent.intentId = intentId := o.keyed _ _ held
  refine checkAll_ok.mpr ?_
  rintro ⟨a, n⟩ member
  obtain ⟨own, number⟩ := rows_numbered o intentId member
  exact bind_ok.mpr ⟨(), ensure_of (own.trans key.symm) _, ensure_of number _⟩

theorem project_explained {o : WakeupOutbox} {intentId : String} {intent : WakeupIntent}
    (held : o.intents intentId = some intent) (explained : Explained (track intentId o)) :
    ∃ p, projectWakeupDelivery intent (rowsOf o.attempts intentId) = .ok p := by
  rw [track, held] at explained
  obtain - | ⟨counted, shown, explains⟩ := explained
  obtain ⟨delivery, executor, detail, status, solid⟩ := projectionStatus_ok explains
  have texts := shown.1
  simp only [List.forall_mem_cons] at texts
  obtain ⟨id, run, node, ref, event, digest, envelope, idem, recipient, -⟩ := texts
  refine ⟨_, bind_ok.mpr ⟨(), rows_checked held, bind_ok.mpr ⟨(), ensure_of counted _,
    bind_ok.mpr ⟨_, status, bind_ok.mpr ⟨(), checkAll_ok.mpr ?_,
      bind_ok.mpr ⟨(), checkAll_ok.mpr ?_, rfl⟩⟩⟩⟩⟩⟩
  · simp only [List.forall_mem_cons, projectionText, ensure_ok]
    exact ⟨id, run, node, ref, event, digest, envelope, idem, recipient, solid,
      List.forall_mem_nil _⟩
  · intro text member
    exact ensure_of (shown.2 text (Option.mem_toList.mp member)) _

/-- An intent whose state contradicts its last attempt has no projection. -/
theorem project_contradicted {o : WakeupOutbox} {intentId : String} {intent : WakeupIntent}
    {e : Raised} (held : o.intents intentId = some intent)
    (counted : intent.attemptCount = (rowsOf o.attempts intentId).length)
    (contradicted : projectionStatus intent (rowsOf o.attempts intentId).getLast? = .error e) :
    projectWakeupDelivery intent (rowsOf o.attempts intentId) = .error e := by
  unfold projectWakeupDelivery
  rw [rows_checked held, ok_bind, ensure_of counted, ok_bind, contradicted]
  rfl

/-! ## Deliveries that do not give up -/

/-- The worker has something left to do: the intent has ended, another attempt is allowed,
or a fallback is approved. -/
structure Supplied (worker : Worker) (t : Track) : Prop where
  left : ∀ intent ∈ t.1, intent.state.terminal = true ∨
    t.2.length < worker.policy.maxAttempts ∨ fallbackCallback intent worker ≠ none

theorem delivers_explained {worker : Worker} (a b : Track) (delivers : Delivers worker a b)
    (holds : Explained a ∧ Supplied worker a) : Explained b ∧ Supplied worker b := by
  obtain ⟨explained, supplied⟩ := holds
  cases delivers with
  | @attempted rows intent a opened follows allowed =>
    refine ⟨explained_recorded follows explained, ⟨fun after same => ?_⟩⟩
    obtain rfl : summarized intent a = after := Option.some.inj same
    rcases allowed with ends | ⟨_, more | callback⟩
    · exact .inl ends
    · refine .inr (.inl ?_)
      rw [List.length_append, List.length_singleton, ← follows.next]
      exact more
    · exact .inr (.inr callback)
  | gaveUp opened spent alone =>
    rcases supplied.left _ rfl with ended | more | callback
    · rw [opened] at ended
      cases ended
    · exact absurd more (Nat.not_lt.mpr spent)
    · exact absurd alone callback

/-! ## Runs -/

/-- No BLOCKED intent is retried, no delivery starts on an open intent without an attempt
or a fallback left, and `_mark_intent_blocked` is not called from elsewhere. -/
def Reported (w : World) : Operation → Prop
  | .create _ _ _ => True
  | .record _ => True
  | .deliver intentId worker _ => Supplied worker (track intentId w.outbox)
  | .retry intentId retryAt => strip retryAt ≠ "" →
      ∀ intent ∈ w.outbox.intents intentId, intent.state ≠ .blocked
  | .block intentId _ => ∀ intent ∈ w.outbox.intents intentId, intent.state.terminal = true

variable [Sha256] [RetryClock]

theorem step_explained (w : World) (op : Operation) (reported : Reported w op) (intentId : String)
    (explained : Explained (track intentId w.outbox)) :
    Explained (track intentId (step w op).outbox) := by
  cases op with
  | create committed decision options =>
    have moved := @track_create intentId _ w.outbox committed decision options
    rw [step_create]
    generalize track intentId (createIntent w.outbox committed decision options).2 = t at moved ⊢
    rcases moved with rfl | ⟨intent, absent, pending, unused, shown, rfl⟩
    · exact explained
    · rw [track, absent] at explained
      exact explained_created explained pending unused shown
  | record candidate =>
    have moved := @track_record intentId w.outbox candidate
    rw [step_record]
    generalize track intentId (w.outbox.recordDeliveryAttempt candidate).2 = t at moved ⊢
    rcases moved with rfl | ⟨_, intent, held, follows, rfl⟩
    · exact explained
    · rw [track, held] at explained
      exact explained_recorded follows explained
  | deliver delivered worker cut =>
    rw [step_deliver]
    have reached := delivery_reached w delivered worker cut
    by_cases own : intentId = delivered
    · subst own
      have path := reached_own reached
      exact (path_keeps (P := fun t => Explained t ∧ Supplied worker t) path delivers_explained
        ⟨explained, reported⟩).1
    · rw [reached_other reached own]
      exact explained
  | retry retriedId retryAt =>
    have moved := @track_retry intentId retriedId w.outbox retryAt
    rw [step_retry]
    generalize track intentId (w.outbox.prepareRetry retriedId retryAt).2 = t at moved ⊢
    rcases moved with rfl | ⟨rfl, timed, intent, held, opened, rfl⟩
    · exact explained
    · rw [track, held] at explained
      exact explained_retried opened (reported timed intent held) timed explained
  | block given updatedAt =>
    have moved := @track_block intentId given w.outbox updatedAt
    rw [step_block]
    generalize track intentId (w.outbox.markIntentBlocked given updatedAt).2 = t at moved ⊢
    rcases moved with rfl | ⟨rfl, intent, held, opened, _⟩
    · exact explained
    · exact absurd (reported intent held) (Bool.eq_false_iff.mp opened)

/-- In every run from empty tables that keeps to `Reported` the projection of an intent
with its attempts succeeds, in every state the run reaches. -/
theorem projection_total (clock : Nat → Except Raised String) (ports : Nat → PortAnswer)
    (operations : List Operation)
    (reported : Runs.Along step Reported (opened clock ports) operations) :
    Runs.Always step (fun w => ∀ intentId, ∀ intent ∈ w.outbox.intents intentId,
      ∃ p, projectWakeupDelivery intent (rowsOf w.outbox.attempts intentId) = .ok p)
      (opened clock ports) operations := by
  refine Runs.always_iff.mpr fun before after split intentId intent held => ?_
  subst split
  have early := ((Runs.along_append ..).mp reported).1
  have explained : ∀ id, Explained (track id (Runs.run step (opened clock ports) before).outbox) := by
    refine @Runs.run_invariant _ _ step Reported (fun w => ∀ id, Explained (track id w.outbox))
      ?_ _ _ (fun _ => .absent) early
    exact fun w op holds ok id => step_explained w op ok id (holds id)
  exact project_explained held (explained intentId)

/-! ## What the condition leaves out -/

omit [Sha256] [RetryClock]

/-- A retry of a BLOCKED intent leaves a BLOCKED attempt behind a PENDING intent. -/
theorem retry_contradicts {o : WakeupOutbox} {intentId retryAt : String} {intent : WakeupIntent}
    (held : o.intents intentId = some intent) (blocked : intent.state = .blocked)
    (named : strip intentId ≠ "") (timed : strip retryAt ≠ "")
    (explained : Explained (track intentId o)) :
    let after := (o.prepareRetry intentId retryAt).2
    after.intents intentId = some (retried intent retryAt) ∧
      projectWakeupDelivery (retried intent retryAt) (rowsOf after.attempts intentId) =
        .error (validationError "wakeup projection state and attempt evidence are inconsistent") := by
  intro after
  rw [track, held] at explained
  obtain - | ⟨counted, _, explains⟩ := explained
  rw [blocked] at explains
  have stored : after = o.updateIntent (retried intent retryAt) := by
    unfold after WakeupOutbox.prepareRetry
    rw [(requiredText_ok (u := ())).mpr named, (requiredText_ok (u := ())).mpr timed, held]
    dsimp only
    rw [if_neg (by rw [blocked]; decide)]
    rfl
  clear_value after
  have own : intent.intentId = intentId := o.keyed _ _ held
  have key : (retried intent retryAt).intentId = intentId := own
  have placed : track intentId after = (some (retried intent retryAt), rowsOf o.attempts intentId) := by
    rw [stored, track_updateIntent o key, if_pos rfl]
  have rows : rowsOf after.attempts intentId = rowsOf o.attempts intentId :=
    congrArg Prod.snd placed
  refine ⟨track_intents placed, project_contradicted (track_intents placed) ?_ ?_⟩
  · rw [rows]
    exact counted
  · rw [rows]
    unfold projectionStatus
    rw [show _ = _ from explains]
    rfl

section Operations
variable {w : World} {n : Nat}

theorem runFor_getIntent {intentId : String} {intent : WakeupIntent}
    {f : WakeupIntent → Delivery WakeupDeliveryResult}
    (read : w.outbox.getIntent intentId = .ok intent) :
    (getIntent intentId >>= f).runFor (n + 1) w = (f intent).runFor n w :=
  @Prog.runFor_observe World Raised _ _ f w intent (fun s => s.outbox.getIntent intentId) read n

theorem runFor_listAttempts {intentId : String} {rows : List WakeupDeliveryAttempt}
    {f : List WakeupDeliveryAttempt → Delivery WakeupDeliveryResult}
    (read : w.outbox.listAttempts intentId = .ok rows) :
    (listAttempts intentId >>= f).runFor (n + 1) w = (f rows).runFor n w :=
  @Prog.runFor_observe World Raised _ _ f w rows (fun s => s.outbox.listAttempts intentId) read n

theorem runFor_clock {now : String} {f : String → Delivery WakeupDeliveryResult}
    (read : w.clock w.ticks = .ok now) : (clockTimestamp >>= f).runFor (n + 1) w =
      (f now).runFor n { w with ticks := w.ticks + 1 } := by
  have ticked : (fun s : World => (s.clock s.ticks, { s with ticks := s.ticks + 1 })) w =
      (.ok now, { w with ticks := w.ticks + 1 }) := by
    dsimp only
    rw [read]
  exact @Prog.runFor_operation World Raised _ _ f w _ now _ ticked n

end Operations

/-- The fourth operation of a delivery blocks an open intent whose attempts are used up. -/
theorem gives_up [RetryClock] {w : World} {intentId now : String} {worker : Worker}
    {intent : WakeupIntent} (held : w.outbox.intents intentId = some intent)
    (opened : intent.state.terminal = false)
    (spent : worker.policy.maxAttempts ≤ count intentId w)
    (alone : fallbackCallback intent worker = none) (named : strip intentId ≠ "")
    (clock : w.clock w.ticks = .ok now) (timed : strip now ≠ "") :
    ((deliverWithRetry intentId worker).runFor 4 w).2.outbox =
      w.outbox.updateIntent (blocked intent now) := by
  have text (value name : String) (solid : strip value ≠ "") : requiredText value name = .ok () :=
    requiredText_ok.mpr solid
  have read : w.outbox.getIntent intentId = .ok intent := by
    unfold WakeupOutbox.getIntent
    rw [text _ _ named, ok_bind, held]
    rfl
  have listed : w.outbox.listAttempts intentId = .ok (rowsOf w.outbox.attempts intentId) := by
    unfold WakeupOutbox.listAttempts
    rw [text _ _ named, ok_bind]
    rfl
  have marked : (w.outbox.markIntentBlocked intentId now).2 =
      w.outbox.updateIntent (blocked intent now) := by
    unfold WakeupOutbox.markIntentBlocked
    rw [text _ _ named, text _ _ timed, read]
    dsimp only
    rw [opened]
    rfl
  have used_up : worker.policy.maxAttempts < (rowsOf w.outbox.attempts intentId).length + 1 :=
    Nat.lt_succ_of_le spent
  have begun : (deliverWithRetry intentId worker).runFor 4 w =
      (chooseAttempt intentId worker intent).runFor 3 w := by
    unfold deliverWithRetry
    change Prog.runFor 4 ((.done (requiredText intentId _) : Delivery Unit) >>= _) w = _
    rw [text _ _ named, Prog.ok_bind]
    rw [runFor_getIntent read, opened, if_neg Bool.false_ne_true]
  have chosen : (chooseAttempt intentId worker intent).runFor 3 w =
      (giveUp intentId).runFor 2 w := by
    unfold chooseAttempt
    rw [runFor_listAttempts listed]
    dsimp only
    rw [if_pos used_up, alone]
  have ended : (giveUp intentId).runFor 2 w =
      (markIntentBlocked intentId now >>= deliveryResult).runFor 1
        { w with ticks := w.ticks + 1 } := by
    unfold giveUp
    rw [runFor_clock clock]
  rw [begun, chosen, ended]
  exact marked

/-- A delivery that gives up blocks the intent behind an attempt that is not BLOCKED. -/
theorem giveUp_contradicts [RetryClock] {w : World} {intentId now : String} {worker : Worker}
    {intent : WakeupIntent} (held : w.outbox.intents intentId = some intent)
    (unsupplied : ¬ Supplied worker (track intentId w.outbox)) (named : strip intentId ≠ "")
    (clock : w.clock w.ticks = .ok now) (timed : strip now ≠ "")
    (explained : Explained (track intentId w.outbox)) :
    let after := ((deliverWithRetry intentId worker).runFor 4 w).2.outbox
    after.intents intentId = some (blocked intent now) ∧
      projectWakeupDelivery (blocked intent now) (rowsOf after.attempts intentId) =
        .error (validationError "blocked wakeup projection lacks a blocked attempt") := by
  intro after
  rw [track, held] at explained unsupplied
  obtain - | ⟨counted, _, explains⟩ := explained
  obtain ⟨not_ended, spent, callback⟩ : ¬ intent.state.terminal = true ∧
      ¬ (rowsOf w.outbox.attempts intentId).length < worker.policy.maxAttempts ∧
      ¬ fallbackCallback intent worker ≠ none := by
    have left : ∀ given : intent.state.terminal = true ∨
        (rowsOf w.outbox.attempts intentId).length < worker.policy.maxAttempts ∨
        fallbackCallback intent worker ≠ none, False := by
      refine fun given => unsupplied ⟨fun other same => ?_⟩
      obtain rfl : intent = other := Option.some.inj same
      exact given
    exact ⟨fun ended => left (.inl ended), fun more => left (.inr (.inl more)),
      fun callback => left (.inr (.inr callback))⟩
  have opened : intent.state.terminal = false := Bool.eq_false_iff.mpr not_ended
  have stored : after = w.outbox.updateIntent (blocked intent now) :=
    gives_up held opened (Nat.le_of_not_lt spent) (not_not.mp callback) named clock timed
  clear_value after
  have own : intent.intentId = intentId := w.outbox.keyed _ _ held
  have key : (blocked intent now).intentId = intentId := own
  have placed : track intentId after =
      (some (blocked intent now), rowsOf w.outbox.attempts intentId) := by
    rw [stored, track_updateIntent w.outbox key, if_pos rfl]
  have rows : rowsOf after.attempts intentId = rowsOf w.outbox.attempts intentId :=
    congrArg Prod.snd placed
  have last : (rowsOf w.outbox.attempts intentId).getLast?.map (·.state) ≠ some .blocked := by
    intro found
    rw [found] at explains
    cases state : intent.state with
    | pending => rw [state] at explains; simp [Explains] at explains
    | inFlight => rw [state] at explains; simp [Explains] at explains
    | failed => rw [state] at explains; simp [Explains] at explains
    | delivered => rw [state] at opened; cases opened
    | blocked => rw [state] at opened; cases opened
  refine ⟨track_intents placed, project_contradicted (track_intents placed) ?_ ?_⟩
  · rw [rows]
    exact counted
  · rw [rows]
    unfold projectionStatus
    dsimp only [blocked]
    simp only [reduceCtorEq, false_and, if_false, if_true]
    exact if_pos last

/-- The request after a failed attempt that was recorded from outside. -/
def failedWorld : World := requestStep requestWorld (.record (failedAttempt "first" 1))

theorem failedWorld_track : track requestIntent.intentId failedWorld.outbox =
    (some (summarized requestIntent (failedAttempt "first" 1)), [failedAttempt "first" 1]) := by
  have empty : requestWorld.outbox.attempts = [] := by
    rw [requestWorld_outbox]
    rfl
  obtain ⟨held, rows⟩ := record_next (a := failedAttempt "first" 1) requestWorld_held rfl
    (failedAttempt_checked (by decide) (by decide))
    (by rw [empty]; exact fun _ member => nomatch member) (by rw [empty]; rfl)
  have stored : failedWorld.outbox =
      (requestWorld.outbox.recordDeliveryAttempt (failedAttempt "first" 1)).2 := by
    unfold failedWorld requestStep
    rw [@step_record requestHash sameTime]
  rw [track, stored, held, rows, empty, List.nil_append, rowsOf_own (by simp [failedAttempt])]

/-- A failed attempt is recorded from outside, then a delivery whose policy allows one
attempt and no fallback gives up. -/
theorem giveUp_unprojected :
    let w := Runs.run (@step requestHash sameTime) firstWorld
      [.create requestCommitted requestDecision smsOptions, .record (failedAttempt "first" 1),
        .deliver requestIntent.intentId plainWorker 4]
    ∃ intent ∈ w.outbox.intents requestIntent.intentId,
      projectWakeupDelivery intent (rowsOf w.outbox.attempts requestIntent.intentId) =
        .error (validationError "blocked wakeup projection lacks a blocked attempt") := by
  intro w
  have reached : w = ((@deliverWithRetry sameTime requestIntent.intentId plainWorker).runFor 4
      failedWorld).2 := by
    unfold w
    rw [Runs.run_cons, Runs.run_cons, Runs.run_cons, Runs.run_nil,
      @step_deliver requestHash sameTime]
    rfl
  have explained : Explained (track requestIntent.intentId failedWorld.outbox) := by
    have follows : Follows requestIntent [] (failedAttempt "first" 1) :=
      ⟨rfl, rfl, failedAttempt_checked (by decide) (by decide)⟩
    have created : Explained (some requestIntent, []) :=
      .present rfl (@shown_of_check requestHash _ requestIntent_checked) (.inl rfl)
    rw [failedWorld_track]
    exact explained_recorded follows created
  have unsupplied : ¬ Supplied plainWorker (track requestIntent.intentId failedWorld.outbox) := by
    rw [failedWorld_track]
    rintro ⟨left⟩
    rcases left _ rfl with ended | more | callback
    · cases ended
    · exact absurd more (by decide)
    · exact callback rfl
  have ticking : failedWorld.clock failedWorld.ticks = .ok "2026-01-02T00:00:00+00:00" := rfl
  have timed : strip "2026-01-02T00:00:00+00:00" ≠ "" := by decide
  have contradicted := @giveUp_contradicts sameTime failedWorld requestIntent.intentId
    _ plainWorker _ (track_intents failedWorld_track) unsupplied
    strip_requestIntentId ticking timed explained
  rw [← reached] at contradicted
  exact ⟨_, contradicted⟩

theorem projection_total_delivered :
    Runs.Always (@step requestHash sameTime) (fun w => ∀ intentId,
      ∀ intent ∈ w.outbox.intents intentId,
        ∃ p, projectWakeupDelivery intent (rowsOf w.outbox.attempts intentId) = .ok p)
      (opened (fun _ => .ok "2026-01-02T00:00:00+00:00") fun _ => .accepted)
      [.create requestCommitted requestDecision smsOptions,
        .deliver requestIntent.intentId smsWorker 100] := by
  have supplied : Supplied smsWorker (track requestIntent.intentId requestWorld.outbox) := by
    have empty : requestWorld.outbox.attempts = [] := by
      rw [requestWorld_outbox]
      rfl
    rw [track, requestWorld_held, empty]
    exact ⟨fun _ _ => .inr (.inl (by decide))⟩
  exact @projection_total requestHash sameTime _ _ _ ⟨trivial, supplied, trivial⟩

end DwSuperApps.Guarantees.WakeupProjection
