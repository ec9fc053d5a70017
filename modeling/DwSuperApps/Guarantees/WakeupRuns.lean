import Mathlib.Logic.Relation
import DwSuperApps.Guarantees.WakeupFinality
import DwSuperApps.Source.WakeupIntents

/-!
# Runs of the wakeup outbox

Intents are created, attempts recorded, intents delivered and retries prepared, one
call after the other; a delivery crashes after any of its operations. What a call may
do to an intent and its attempts is `Moved`, what a delivery may do is `Delivers`.
Attempts stay counted and intents bound in every run. A delivery without fallback ends
its budget with an attempt, with a fallback one attempt later; a record that comes from
outside has no budget and lets the fallback run once more.
-/
namespace DwSuperApps.Guarantees.WakeupRuns

open DwSuperApps.Lib DwSuperApps.Lib.Checked
open DwSuperApps.Lib.Programs (Prog)
open DwSuperApps.Source.Envelope DwSuperApps.Source.Wakeup DwSuperApps.Source.WakeupIntents
open DwSuperApps.Source.Dispatch (DispatchCommitted digestText)
open DwSuperApps.Guarantees.WakeupFinality
  (count summarized record_cases getIntent_ok sameTime smsWorker)

/-! ## Calls -/

inductive Operation where
  | create (committed : DispatchCommitted) (decision : WakeupDecision) (options : IntentOptions)
  | record (candidate : WakeupDeliveryAttempt)
  | deliver (intentId : String) (worker : Worker) (cut : Nat)
  | retry (intentId retryAt : String)
  | block (intentId updatedAt : String)

/-- A delivery ends or crashes after `cut` of its operations. -/
def step [Sha256] [RetryClock] (w : World) : Operation → World
  | .create committed decision options =>
    { w with outbox := (createIntent w.outbox committed decision options).2 }
  | .record candidate => { w with outbox := (w.outbox.recordDeliveryAttempt candidate).2 }
  | .deliver intentId worker cut => ((deliverWithRetry intentId worker).runFor cut w).2
  | .retry intentId retryAt => { w with outbox := (w.outbox.prepareRetry intentId retryAt).2 }
  | .block intentId updatedAt =>
    { w with outbox := (w.outbox.markIntentBlocked intentId updatedAt).2 }

section Steps
variable [Sha256] [RetryClock] (w : World)

theorem step_create (committed : DispatchCommitted) (decision : WakeupDecision)
    (options : IntentOptions) : (step w (.create committed decision options)).outbox =
      (createIntent w.outbox committed decision options).2 := by
  rw [step]

theorem step_record (candidate : WakeupDeliveryAttempt) :
    (step w (.record candidate)).outbox = (w.outbox.recordDeliveryAttempt candidate).2 := by
  rw [step]

theorem step_deliver (intentId : String) (worker : Worker) (cut : Nat) :
    step w (.deliver intentId worker cut) =
      ((deliverWithRetry intentId worker).runFor cut w).2 := by
  rw [step]

theorem step_retry (intentId retryAt : String) :
    (step w (.retry intentId retryAt)).outbox = (w.outbox.prepareRetry intentId retryAt).2 := by
  rw [step]

theorem step_block (intentId updatedAt : String) : (step w (.block intentId updatedAt)).outbox =
    (w.outbox.markIntentBlocked intentId updatedAt).2 := by
  rw [step]

end Steps

theorem none_contiguous : Contiguous [] := fun _ => rfl

/-- The tables have just been created. -/
def opened (clock : Nat → Except Raised String) (ports : Nat → PortAnswer) : World where
  outbox :=
    { keyed := by
        intro intentId intent found
        cases found
      contiguous := none_contiguous }
  clock
  ports

/-! ## What a call does to an intent -/

/-- The row of an intent and its attempts. -/
abbrev Track : Type := Option WakeupIntent × List WakeupDeliveryAttempt

def track (intentId : String) (o : WakeupOutbox) : Track :=
  (o.intents intentId, rowsOf o.attempts intentId)

/-- The texts of an intent that its projection shows. -/
def Shown (i : WakeupIntent) : Prop :=
  (∀ text ∈ [i.intentId, i.runId, i.nodeId, i.mailboxRef, i.eventId, i.eventDigest,
    i.envelopeDigest, i.idempotencyKey, i.recipient], strip text ≠ "") ∧
  ∀ text ∈ i.nextAttemptAt, strip text ≠ ""

/-- The row `prepare_retry` stores. -/
def retried (intent : WakeupIntent) (retryAt : String) : WakeupIntent :=
  { intent with state := .pending, nextAttemptAt := some retryAt, updatedAt := retryAt }

/-- The row `_mark_intent_blocked` stores. -/
def blocked (intent : WakeupIntent) (updatedAt : String) : WakeupIntent :=
  { intent with state := .blocked, nextAttemptAt := none, updatedAt := updatedAt }

/-- An attempt that may follow the attempts of an intent. -/
structure Follows (intent : WakeupIntent) (rows : List WakeupDeliveryAttempt)
    (a : WakeupDeliveryAttempt) : Prop where
  own : a.intentId = intent.intentId
  next : a.attemptNumber = rows.length + 1
  checked : a.check = .ok ()

inductive Moved : Track → Track → Prop
  | created {rows : List WakeupDeliveryAttempt} {intent : WakeupIntent}
      (pending : intent.state = .pending) (unused : intent.attemptCount = 0)
      (shown : Shown intent) : Moved (none, rows) (some intent, rows)
  | recorded {rows : List WakeupDeliveryAttempt} {intent : WakeupIntent}
      {a : WakeupDeliveryAttempt} (follows : Follows intent rows a) :
      Moved (some intent, rows) (some (summarized intent a), rows ++ [a])
  | retried {rows : List WakeupDeliveryAttempt} {intent : WakeupIntent} {retryAt : String}
      (opened : intent.state ≠ .delivered) (timed : strip retryAt ≠ "") :
      Moved (some intent, rows) (some (retried intent retryAt), rows)
  | blocked {rows : List WakeupDeliveryAttempt} {intent : WakeupIntent} {updatedAt : String}
      (opened : intent.state.terminal = false) :
      Moved (some intent, rows) (some (blocked intent updatedAt), rows)

/-- An attempt of a delivery ends the intent, or is within the policy of the worker and
leaves it another attempt or the fallback. -/
def Allowed (worker : Worker) (intent : WakeupIntent) (a : WakeupDeliveryAttempt) : Prop :=
  a.state.intentState.terminal = true ∨
    (a.attemptNumber ≤ worker.policy.maxAttempts ∧
      (a.attemptNumber < worker.policy.maxAttempts ∨ fallbackCallback intent worker ≠ none))

/-- What a delivery does: it records an attempt, or blocks an intent whose attempts are
used up without an approved fallback. -/
inductive Delivers (worker : Worker) : Track → Track → Prop
  | attempted {rows : List WakeupDeliveryAttempt} {intent : WakeupIntent}
      {a : WakeupDeliveryAttempt} (opened : intent.state.terminal = false)
      (follows : Follows intent rows a) (allowed : Allowed worker intent a) :
      Delivers worker (some intent, rows) (some (summarized intent a), rows ++ [a])
  | gaveUp {rows : List WakeupDeliveryAttempt} {intent : WakeupIntent} {updatedAt : String}
      (opened : intent.state.terminal = false)
      (spent : worker.policy.maxAttempts ≤ rows.length)
      (alone : fallbackCallback intent worker = none) :
      Delivers worker (some intent, rows) (some (blocked intent updatedAt), rows)

theorem Delivers.moved {worker : Worker} {a b : Track} (delivers : Delivers worker a b) :
    Moved a b := by
  cases delivers with
  | attempted opened follows allowed => exact .recorded follows
  | gaveUp opened spent alone => exact .blocked opened

/-! ## Calls of the outbox -/

variable {intentId other : String}

theorem requiredText_ok {value name : String} {u : Unit} :
    requiredText value name = .ok u ↔ strip value ≠ "" := by
  unfold requiredText
  exact ensure_ok

theorem optionalText_ok {value : Option String} {name : String} {u : Unit} :
    optionalText value name = .ok u ↔ ∀ text ∈ value, strip text ≠ "" := by
  unfold optionalText
  cases value with
  | none => simp
  | some text => simp [requiredText_ok]

theorem track_updateIntent (o : WakeupOutbox) {intent : WakeupIntent}
    (key : intent.intentId = other) : track intentId (o.updateIntent intent) =
      if other = intentId then (some intent, rowsOf o.attempts intentId)
      else track intentId o := by
  subst key
  unfold track
  change (Function.update o.intents intent.intentId (some intent) intentId, _) = _
  split
  · next same =>
    subst same
    rw [Function.update_self]
    rfl
  · next different =>
    rw [Function.update_of_ne (Ne.symm different)]
    rfl

theorem track_intents {o : WakeupOutbox} {row : Option WakeupIntent}
    {rows : List WakeupDeliveryAttempt} (placed : track intentId o = (row, rows)) :
    o.intents intentId = row := by
  unfold track at placed
  exact (Prod.mk.inj placed).1

/-- A record appends the next attempt of its intent, or leaves the tables. -/
theorem track_record (o : WakeupOutbox) (candidate : WakeupDeliveryAttempt) :
    track intentId (o.recordDeliveryAttempt candidate).2 = track intentId o ∨
      candidate.intentId = intentId ∧ ∃ intent, o.intents intentId = some intent ∧
        Follows intent (rowsOf o.attempts intentId) candidate ∧
        track intentId (o.recordDeliveryAttempt candidate).2 =
          (some (summarized intent candidate), rowsOf o.attempts intentId ++ [candidate]) := by
  rcases record_cases o candidate with
    ⟨e, outcome⟩ | ⟨_, outcome⟩ | ⟨next, appended, intent, rows, intents, held, checked, outcome⟩
  · exact .inl (by rw [outcome])
  · exact .inl (by rw [outcome])
  · have key : intent.intentId = candidate.intentId := o.keyed _ _ held
    have stored : (summarized intent candidate).intentId = candidate.intentId := key
    rw [outcome, track_updateIntent appended stored, rows, rowsOf_append]
    split
    · next own =>
      subst own
      refine .inr ⟨rfl, intent, held, ⟨key.symm, ?_, checked⟩, rfl⟩
      rw [next, o.contiguous.maxNumber_eq]
    · next different =>
      refine .inl ?_
      unfold track
      rw [intents, rows, rowsOf_append, if_neg different]

theorem track_retry (o : WakeupOutbox) (retryAt : String) :
    track intentId (o.prepareRetry other retryAt).2 = track intentId o ∨
      other = intentId ∧ strip retryAt ≠ "" ∧ ∃ intent, o.intents intentId = some intent ∧
        intent.state ≠ .delivered ∧ track intentId (o.prepareRetry other retryAt).2 =
          (some (retried intent retryAt), rowsOf o.attempts intentId) := by
  unfold WakeupOutbox.prepareRetry
  split
  · exact .inl rfl
  · exact .inl rfl
  · exact .inl rfl
  · next current _ timed held =>
    split
    · exact .inl rfl
    · next opened =>
      have key : current.intentId = other := o.keyed _ _ held
      have stored : (retried current retryAt).intentId = other := key
      have placed := @track_updateIntent intentId _ o _ stored
      change track intentId (o.updateIntent (retried current retryAt)) = _ ∨ _
      rw [placed]
      split
      · next own =>
        subst own
        exact .inr ⟨rfl, requiredText_ok.mp timed, current, held, opened, placed.trans (if_pos rfl)⟩
      · exact .inl rfl

theorem track_block (o : WakeupOutbox) (updatedAt : String) :
    track intentId (o.markIntentBlocked other updatedAt).2 = track intentId o ∨
      other = intentId ∧ ∃ intent, o.intents intentId = some intent ∧
        intent.state.terminal = false ∧ track intentId (o.markIntentBlocked other updatedAt).2 =
          (some (blocked intent updatedAt), rowsOf o.attempts intentId) := by
  unfold WakeupOutbox.markIntentBlocked
  split
  · exact .inl rfl
  · exact .inl rfl
  · exact .inl rfl
  · next current _ _ read =>
    obtain ⟨held, key⟩ := getIntent_ok read
    split
    · exact .inl rfl
    · next opened =>
      have stored : (blocked current updatedAt).intentId = other := key
      have placed := @track_updateIntent intentId _ o _ stored
      change track intentId (o.updateIntent (blocked current updatedAt)) = _ ∨ _
      rw [placed]
      split
      · next own =>
        subst own
        exact .inr ⟨rfl, current, held, Bool.eq_false_iff.mpr opened, placed.trans (if_pos rfl)⟩
      · exact .inl rfl

section Creation
variable [Sha256]

/-- An intent that passed its own checks shows non-blank texts. -/
theorem shown_of_check {i : WakeupIntent} (checked : checkIntent i = .ok ()) : Shown i := by
  unfold checkIntent at checked
  obtain ⟨_, texts, checked⟩ := bind_ok.mp checked
  obtain ⟨_, _, checked⟩ := bind_ok.mp checked
  obtain ⟨_, event, checked⟩ := bind_ok.mp checked
  obtain ⟨_, envelope, checked⟩ := bind_ok.mp checked
  obtain ⟨_, _, checked⟩ := bind_ok.mp checked
  obtain ⟨_, _, checked⟩ := bind_ok.mp checked
  obtain ⟨_, recipient, checked⟩ := bind_ok.mp checked
  obtain ⟨_, next, _⟩ := bind_ok.mp checked
  have each := checkAll_ok.mp texts
  simp only [List.forall_mem_cons, requiredText_ok] at each
  have digest : ∀ {text name : String} {u : Unit}, digestText text name = .ok u → strip text ≠ "" := by
    intro text name u passed
    obtain ⟨_, solid, _⟩ := bind_ok.mp passed
    exact ensure_ok.mp solid
  refine ⟨?_, optionalText_ok.mp next⟩
  simp only [List.forall_mem_cons]
  exact ⟨each.1, each.2.1, each.2.2.1, each.2.2.2.1, each.2.2.2.2.1, digest event, digest envelope,
    each.2.2.2.2.2.2.1, requiredText_ok.mp recipient, List.forall_mem_nil _⟩

theorem track_create (o : WakeupOutbox) (committed : DispatchCommitted) (decision : WakeupDecision)
    (options : IntentOptions) :
    track intentId (createIntent o committed decision options).2 = track intentId o ∨
      ∃ intent, o.intents intentId = none ∧ intent.state = .pending ∧ intent.attemptCount = 0 ∧
        Shown intent ∧ track intentId (createIntent o committed decision options).2 =
          (some intent, rowsOf o.attempts intentId) := by
  unfold createIntent
  split
  · exact .inl rfl
  · next candidate made =>
    have checked : checkIntent candidate = .ok () ∧ candidate.state = .pending ∧
        candidate.attemptCount = 0 := by
      unfold admittedIntent at made
      obtain ⟨_, _, made⟩ := bind_ok.mp made
      obtain ⟨_, _, made⟩ := bind_ok.mp made
      obtain ⟨_, _, made⟩ := bind_ok.mp made
      obtain ⟨_, _, made⟩ := bind_ok.mp made
      obtain ⟨_, _, made⟩ := bind_ok.mp made
      obtain ⟨_, _, made⟩ := bind_ok.mp made
      obtain ⟨_, checked, made⟩ := bind_ok.mp made
      cases made
      exact ⟨checked, rfl, rfl⟩
    split
    · split
      · exact .inl rfl
      · exact .inl rfl
    · next absent =>
      dsimp only
      rw [track_updateIntent o rfl]
      split
      · next own =>
        subst own
        exact .inr ⟨candidate, absent, checked.2.1, checked.2.2, shown_of_check checked.1, rfl⟩
      · exact .inl rfl

end Creation

/-! ## Deliveries -/

def tracks (o : WakeupOutbox) : String → Track := fun intentId => track intentId o

/-- An operation of a delivery of the intent that changes the tables. -/
structure DeliveryStep (intentId : String) (worker : Worker) (a b : String → Track) : Prop where
  own : Delivers worker (a intentId) (b intentId)
  others : ∀ other, other ≠ intentId → b other = a other

/-- The delivery has come from `a` to the tables of the world. -/
def Reached (intentId : String) (worker : Worker) (a : String → Track) (w : World) : Prop :=
  Relation.ReflTransGen (DeliveryStep intentId worker) a (tracks w.outbox)

variable {worker : Worker} {a : String → Track} {w : World} {current : WakeupIntent}

/-- A recorded attempt the delivery may make is a step of it. The intent is then the
one it was, or has the state of the attempt. -/
theorem reached_record {candidate : WakeupDeliveryAttempt} (reached : Reached intentId worker a w)
    (held : w.outbox.intents intentId = some current) (opened : current.state.terminal = false)
    (own : candidate.intentId = intentId) (allowed : Allowed worker current candidate) :
    Reached intentId worker a { w with outbox := (w.outbox.recordDeliveryAttempt candidate).2 } ∧
      ∃ after, (w.outbox.recordDeliveryAttempt candidate).2.intents intentId = some after ∧
        (after = current ∨ after = summarized current candidate) := by
  have others : ∀ other, other ≠ intentId →
      track other (w.outbox.recordDeliveryAttempt candidate).2 = track other w.outbox := by
    intro other different
    rcases @track_record other w.outbox candidate with same | ⟨moved, _⟩
    · exact same
    · exact absurd (moved.symm.trans own) different
  rcases @track_record intentId w.outbox candidate with
    same | ⟨_, intent, found, follows, placed⟩
  · have unchanged : tracks (w.outbox.recordDeliveryAttempt candidate).2 = tracks w.outbox := by
      funext other
      by_cases own : other = intentId
      · subst own
        exact same
      · exact others other own
    refine ⟨?_, current, (track_intents same).trans held, .inl rfl⟩
    unfold Reached at reached ⊢
    rw [unchanged]
    exact reached
  · have key : intent = current := Option.some.inj (found.symm.trans held)
    subst key
    refine ⟨reached.tail ⟨?_, others⟩, _, track_intents placed, .inr rfl⟩
    change Delivers worker (track intentId w.outbox) (track intentId _)
    rw [placed, track, found]
    exact .attempted opened follows allowed

theorem reached_block {updatedAt : String} (reached : Reached intentId worker a w)
    (held : w.outbox.intents intentId = some current) (opened : current.state.terminal = false)
    (spent : worker.policy.maxAttempts ≤ count intentId w)
    (alone : fallbackCallback current worker = none) : Reached intentId worker a
      { w with outbox := (w.outbox.markIntentBlocked intentId updatedAt).2 } := by
  have others : ∀ other, other ≠ intentId →
      track other (w.outbox.markIntentBlocked intentId updatedAt).2 = track other w.outbox := by
    intro other different
    rcases track_block w.outbox updatedAt with same | ⟨moved, _⟩
    · exact same
    · exact absurd moved.symm different
  rcases @track_block intentId intentId w.outbox updatedAt with
    same | ⟨_, intent, found, _, placed⟩
  · have unchanged : tracks (w.outbox.markIntentBlocked intentId updatedAt).2 = tracks w.outbox := by
      funext other
      by_cases own : other = intentId
      · subst own
        exact same
      · exact others other own
    unfold Reached at reached ⊢
    rw [unchanged]
    exact reached
  · have key : intent = current := Option.some.inj (found.symm.trans held)
    subst key
    refine reached.tail ⟨?_, others⟩
    change Delivers worker (track intentId w.outbox) (track intentId _)
    rw [placed, track, found]
    exact .gaveUp opened spent alone

section Throughout
variable {β γ : Type}

/-- An operation that leaves the outbox, and what comes after it. -/
theorem throughout_quiet {op : World → Except Raised β × World} {f : β → Delivery γ}
    (quiet : ∀ s, (op s).2.outbox = s.outbox) (reached : Reached intentId worker a w)
    (later : ∀ b t, (op w).1 = .ok b → t.outbox = w.outbox →
      (f b).Throughout (Reached intentId worker a) t) :
    (Prog.operation op >>= f).Throughout (Reached intentId worker a) w := by
  have after : Reached intentId worker a (op w).2 := by
    unfold Reached at reached ⊢
    rw [quiet w]
    exact reached
  refine (Prog.throughout_operation reached after).bind fun b t ran _ => ?_
  rw [Prog.run_operation] at ran
  have same := quiet w
  rw [ran] at same
  exact later b t (congrArg Prod.fst ran) same

theorem throughout_clock {f : String → Delivery γ} (reached : Reached intentId worker a w)
    (later : ∀ now t, t.outbox = w.outbox → (f now).Throughout (Reached intentId worker a) t) :
    (clockTimestamp >>= f).Throughout (Reached intentId worker a) w := by
  unfold clockTimestamp
  exact throughout_quiet (fun _ => rfl) reached fun now t _ same => later now t same

theorem throughout_call {call : Invocation} {f : PortAnswer → Delivery γ}
    (reached : Reached intentId worker a w)
    (later : ∀ answer t, t.outbox = w.outbox →
      (f answer).Throughout (Reached intentId worker a) t) :
    (invokeDeliveryCallback call >>= f).Throughout (Reached intentId worker a) w := by
  unfold invokeDeliveryCallback
  exact throughout_quiet (fun _ => rfl) reached fun answer t _ same => later answer t same

theorem throughout_read {view : World → Except Raised β} {f : β → Delivery γ}
    (reached : Reached intentId worker a w)
    (later : ∀ b, view w = .ok b → (f b).Throughout (Reached intentId worker a) w) :
    (Prog.observe view >>= f).Throughout (Reached intentId worker a) w := by
  refine (Prog.throughout_observe reached).bind fun b t ran _ => ?_
  rw [Prog.run_observe] at ran
  obtain rfl : w = t := congrArg Prod.snd ran
  exact later b (congrArg Prod.fst ran)

theorem throughout_record {candidate : WakeupDeliveryAttempt}
    {f : WakeupDeliveryAttempt → Delivery γ} (reached : Reached intentId worker a w)
    (held : w.outbox.intents intentId = some current) (opened : current.state.terminal = false)
    (own : candidate.intentId = intentId) (allowed : Allowed worker current candidate)
    (later : ∀ row t after, Reached intentId worker a t → t.outbox.intents intentId = some after →
      (after = current ∨ after = summarized current candidate) →
      (f row).Throughout (Reached intentId worker a) t) :
    (recordDeliveryAttempt candidate >>= f).Throughout (Reached intentId worker a) w := by
  obtain ⟨moved, after, found, kinds⟩ := reached_record reached held opened own allowed
  have first : (recordDeliveryAttempt candidate).Throughout (Reached intentId worker a) w :=
    .atomic reached (.done moved)
  refine first.bind fun row t ran here => ?_
  have stored : (w.outbox.recordDeliveryAttempt candidate).2 = t.outbox := by
    unfold recordDeliveryAttempt at ran
    rw [Prog.run_operation] at ran
    rw [← (Prod.mk.inj ran).2]
  rw [stored] at found
  exact later row t after here found kinds

end Throughout

theorem throughout_result (reached : Reached intentId worker a w) (intent : WakeupIntent) :
    (deliveryResult intent).Throughout (Reached intentId worker a) w := by
  unfold deliveryResult
  split
  · exact .done reached
  · refine throughout_read reached fun attempts _ => ?_
    dsimp only
    split
    · exact .done reached
    · exact .done reached

theorem throughout_finish (reached : Reached intentId worker a w) (read : String) :
    (getIntent read >>= deliveryResult).Throughout (Reached intentId worker a) w :=
  throughout_read reached fun intent _ => throughout_result reached intent

theorem Reached.same {t : World} (reached : Reached intentId worker a w)
    (same : t.outbox = w.outbox) : Reached intentId worker a t := by
  unfold Reached at reached ⊢
  rw [same]
  exact reached

theorem throughout_giveUp (reached : Reached intentId worker a w)
    (held : w.outbox.intents intentId = some current) (opened : current.state.terminal = false)
    (spent : worker.policy.maxAttempts ≤ count intentId w)
    (alone : fallbackCallback current worker = none) :
    (giveUp intentId).Throughout (Reached intentId worker a) w := by
  refine throughout_clock reached fun now t same => ?_
  have spent_then : worker.policy.maxAttempts ≤ count intentId t := by
    unfold count at spent ⊢
    rw [same]
    exact spent
  have here := reached.same same
  have moved := @reached_block _ _ _ _ _ now here (same ▸ held) opened spent_then alone
  have first : (markIntentBlocked intentId now).Throughout (Reached intentId worker a) t :=
    .atomic here (.done moved)
  exact first.bind fun intent u _ after => throughout_result after intent

theorem throughout_fallback (reached : Reached intentId worker a w)
    (held : w.outbox.intents intentId = some current) (opened : current.state.terminal = false)
    (n : Nat) (capability : String) :
    (deliverFallback current n capability).Throughout (Reached intentId worker a) w := by
  have own : current.intentId = intentId := w.outbox.keyed _ _ held
  refine throughout_clock reached fun now t same => ?_
  refine throughout_call (reached.same same) fun answer u same' => ?_
  have here := (reached.same same).same same'
  have found : u.outbox.intents intentId = some current := by
    rw [same', same]
    exact held
  obtain ⟨accepted, code, detail⟩ := answer.outcome
  cases accepted with
  | true =>
    refine throughout_record here found opened own ?_ fun _ _ _ after _ _ => throughout_finish after _
    exact .inl rfl
  | false =>
    refine throughout_record here found opened own ?_ fun _ _ _ after _ _ => throughout_finish after _
    exact .inl rfl

theorem throughout_resume (reached : Reached intentId worker a w)
    (held : w.outbox.intents intentId = some current) (opened : current.state.terminal = false)
    (n : Nat) (capability : String) :
    (resumeFallback intentId n capability).Throughout (Reached intentId worker a) w := by
  refine throughout_read reached fun intent read => ?_
  have key : intent = current := Option.some.inj ((getIntent_ok read).1.symm.trans held)
  subst key
  exact throughout_fallback reached held opened n capability

section Loop
variable [RetryClock]

/-- The loop is entered with attempts left, and ends with the last one the policy allows. -/
theorem throughout_attempts (remaining : Nat) {n : Nat} (reached : Reached intentId worker a w)
    (within : n ≤ worker.policy.maxAttempts)
    (left : n + remaining = worker.policy.maxAttempts + 1) :
    (attemptLoop intentId worker remaining n).Throughout (Reached intentId worker a) w := by
  induction remaining generalizing n w with
  | zero => omega
  | succ remaining ih =>
    unfold attemptLoop
    refine throughout_read reached fun current read => ?_
    obtain ⟨held, _⟩ := getIntent_ok read
    split
    · exact throughout_result reached current
    · next not_terminal =>
      have opened : current.state.terminal = false := Bool.eq_false_iff.mpr not_terminal
      refine throughout_clock reached fun now t same => ?_
      refine throughout_call (reached.same same) fun answer u same' => ?_
      have here := (reached.same same).same same'
      have found : u.outbox.intents intentId = some current := by
        rw [same', same]
        exact held
      obtain ⟨accepted, code, detail⟩ := answer.outcome
      cases accepted with
      | true =>
        refine throughout_record here found opened rfl ?_ fun _ _ _ after _ _ =>
          throughout_finish after _
        exact .inl rfl
      | false =>
        simp only [Bool.false_eq_true, if_false]
        split
        · next more =>
          refine Prog.throughout_lift here fun delay _ => ?_
          refine throughout_record here found opened rfl ?_ fun _ _ _ after _ _ =>
            ih after more (by omega)
          exact .inr ⟨within, .inl more⟩
        · cases callback : fallbackCallback current worker with
          | none =>
            refine throughout_record here found opened rfl ?_ fun _ _ _ after _ _ =>
              throughout_finish after _
            exact .inl rfl
          | some capability =>
            have allowed : fallbackCallback current worker ≠ none := by
              rw [callback]
              exact Option.some_ne_none _
            refine throughout_record here found opened rfl ?_ fun _ _ now after stored kinds => ?_
            · exact .inr ⟨within, .inr allowed⟩
            · refine throughout_resume after stored ?_ _ _
              rcases kinds with rfl | rfl
              · exact opened
              · rfl

/-- Whatever a delivery does, cut or not, is made of its steps. -/
theorem delivery_reached (w : World) (intentId : String) (worker : Worker) (cut : Nat) :
    Reached intentId worker (tracks w.outbox)
      ((deliverWithRetry intentId worker).runFor cut w).2 := by
  have start : Reached intentId worker (tracks w.outbox) w := .refl
  refine Prog.Throughout.runFor ?_ cut
  refine Prog.throughout_lift start fun _ _ => ?_
  refine throughout_read start fun current read => ?_
  obtain ⟨held, _⟩ := getIntent_ok read
  split
  · exact throughout_result start current
  · next not_terminal =>
    have opened : current.state.terminal = false := Bool.eq_false_iff.mpr not_terminal
    refine throughout_read start fun attempts listed => ?_
    have length : attempts.length = count intentId w := by
      obtain ⟨_, _, listed⟩ := bind_ok.mp listed
      cases listed
      rfl
    dsimp only
    split
    · cases callback : fallbackCallback current worker with
      | some capability => exact throughout_fallback start held opened _ _
      | none => exact throughout_giveUp start held opened (by omega) callback
    · exact throughout_attempts _ start (by omega) (by omega)

end Loop

/-! ## Steps -/

/-- A property that every link of a path keeps holds at its end. -/
theorem path_keeps {α : Type} {R : α → α → Prop} {P : α → Prop} {x y : α}
    (path : Relation.ReflTransGen R x y) (kept : ∀ a b, R a b → P a → P b) (holds : P x) : P y := by
  induction path with
  | refl => exact holds
  | tail _ next ih => exact kept _ _ next ih

theorem reached_own (reached : Reached intentId worker a w) :
    Relation.ReflTransGen (Delivers worker) (a intentId) (track intentId w.outbox) :=
  Relation.ReflTransGen.lift (fun t : String → Track => t intentId) (fun _ _ step => step.own)
    _ _ reached

theorem reached_other (reached : Reached intentId worker a w) (different : other ≠ intentId) :
    track other w.outbox = a other :=
  path_keeps (P := fun t => t other = a other) reached
    (fun _ _ step same => (step.others other different).trans same) rfl

section Runs
variable [Sha256] [RetryClock]

/-- Every call moves an intent and its attempts along `Moved`. -/
theorem step_moved (w : World) (op : Operation) (intentId : String) :
    Relation.ReflTransGen Moved (track intentId w.outbox) (track intentId (step w op).outbox) := by
  have still : ∀ {b : Track}, b = track intentId w.outbox →
      Relation.ReflTransGen Moved (track intentId w.outbox) b := fun same => same ▸ .refl
  cases op with
  | create committed decision options =>
    rcases @track_create intentId _ w.outbox committed decision options with
      same | ⟨intent, absent, pending, unused, shown, placed⟩
    · exact still (by rw [step_create, same])
    · refine .single ?_
      rw [step_create, placed, track, absent]
      exact .created pending unused shown
  | record candidate =>
    rcases @track_record intentId w.outbox candidate with
      same | ⟨_, intent, held, follows, placed⟩
    · exact still (by rw [step_record, same])
    · refine .single ?_
      rw [step_record, placed, track, held]
      exact .recorded follows
  | deliver delivered worker cut =>
    have reached := delivery_reached w delivered worker cut
    by_cases own : intentId = delivered
    · subst own
      exact Relation.ReflTransGen.mono (fun _ _ delivers => delivers.moved) _ _ (reached_own reached)
    · exact still (reached_other reached own)
  | retry retried retryAt =>
    rcases @track_retry intentId retried w.outbox retryAt with
      same | ⟨_, timed, intent, held, opened, placed⟩
    · exact still (by rw [step_retry, same])
    · refine .single ?_
      rw [step_retry, placed, track, held]
      exact .retried opened timed
  | block given updatedAt =>
    rcases @track_block intentId given w.outbox updatedAt with
      same | ⟨_, intent, held, opened, placed⟩
    · exact still (by rw [step_block, same])
    · refine .single ?_
      rw [step_block, placed, track, held]
      exact .blocked opened

/-- A property of an intent and its attempts that every move keeps holds in every run. -/
theorem run_track {P : Track → Prop} (kept : ∀ a b, Moved a b → P a → P b)
    (operations : List Operation) (w : World) (holds : P (track intentId w.outbox)) :
    P (track intentId (Runs.run step w operations).outbox) := by
  refine @Runs.run_invariant_of_forall _ _ step (fun w => P (track intentId w.outbox)) ?_
    w operations holds
  intro w op before
  exact path_keeps (step_moved w op intentId) kept before

end Runs

/-! ## Counted attempts and bound intents -/

/-- The intent counts its attempts; an unknown intent has none. -/
def Accounted : Track → Prop
  | (none, rows) => rows = []
  | (some intent, rows) => intent.attemptCount = rows.length

theorem moved_accounted (a b : Track) (moved : Moved a b) (accounted : Accounted a) :
    Accounted b := by
  cases moved with
  | created _ unused _ =>
    obtain rfl : _ = [] := accounted
    exact unused
  | recorded follows =>
    change _ = _
    rw [List.length_append, List.length_singleton, ← follows.next]
    rfl
  | retried opened timed => exact accounted
  | blocked opened => exact accounted

theorem sameBinding_refl (i : WakeupIntent) : SameBinding i i := by
  simp [SameBinding]

theorem SameBinding.trans {i j k : WakeupIntent} (first : SameBinding i j)
    (second : SameBinding j k) : SameBinding i k := by
  unfold SameBinding at *
  grind

/-- The intent that was there still is, with the same binding. -/
def Keeps (before : WakeupIntent) (t : Track) : Prop := ∃ after ∈ t.1, SameBinding before after

theorem moved_keeps {before : WakeupIntent} (a b : Track) (moved : Moved a b)
    (keeps : Keeps before a) : Keeps before b := by
  obtain ⟨held, member, same⟩ := keeps
  cases moved with
  | created _ _ _ => cases member
  | recorded follows =>
    obtain rfl := Option.some.inj member
    exact ⟨_, rfl, same⟩
  | retried opened timed =>
    obtain rfl := Option.some.inj member
    exact ⟨_, rfl, same⟩
  | blocked opened =>
    obtain rfl := Option.some.inj member
    exact ⟨_, rfl, same⟩

/-! ## The budget between retries -/

/-- A call of a stretch without retries of the intent, in which its deliveries have
policies of at most `budget` attempts. -/
def InStretch (intentId : String) (budget : Nat) : Operation → Prop
  | .retry other _ => other ≠ intentId
  | .deliver other worker _ => other = intentId → worker.policy.maxAttempts ≤ budget
  | _ => True

/-- The call records an attempt of the intent from outside of a delivery. -/
def direct (intentId : String) : Operation → Bool
  | .record candidate => candidate.intentId = intentId
  | _ => false

/-- At most `limit` attempts are recorded, two more for each direct record, and one more
when the intent has ended. -/
def Spent (limit records : Nat) (t : Track) : Prop :=
  t.2.length ≤ limit + 2 * records + if t.1.any (·.state.terminal) then 1 else 0

variable {limit records : Nat}

theorem spent_open {rows : List WakeupDeliveryAttempt} {intent : WakeupIntent}
    (opened : intent.state.terminal = false) :
    Spent limit records (some intent, rows) ↔ rows.length ≤ limit + 2 * records := by
  unfold Spent
  rw [Option.any_some, opened, if_neg Bool.false_ne_true, Nat.add_zero]

theorem spent_ended {rows : List WakeupDeliveryAttempt} {intent : WakeupIntent}
    (ended : intent.state.terminal = true) :
    Spent limit records (some intent, rows) ↔ rows.length ≤ limit + 2 * records + 1 := by
  unfold Spent
  rw [Option.any_some, ended, if_pos rfl]

theorem Spent.le {t : Track} (spent : Spent limit records t) :
    t.2.length ≤ limit + 2 * records + 1 := by
  unfold Spent at spent
  split at spent
  · exact spent
  · omega

theorem delivers_spent {x y : Track} (delivers : Delivers worker x y)
    (within : worker.policy.maxAttempts ≤ limit) (spent : Spent limit records x) :
    Spent limit records y := by
  cases delivers with
  | @attempted rows intent a opened follows allowed =>
    have before := (spent_open opened).mp spent
    cases state : a.state.intentState.terminal with
    | true =>
      refine (spent_ended state).mpr ?_
      rw [List.length_append, List.length_singleton]
      omega
    | false =>
      refine (spent_open state).mpr ?_
      rcases allowed with ends | ⟨inside, _⟩
      · exact absurd ends (Bool.eq_false_iff.mp state)
      · have next := follows.next
        rw [List.length_append, List.length_singleton]
        omega
  | gaveUp opened _ _ =>
    have before := (spent_open opened).mp spent
    exact (spent_ended rfl).mpr (before.trans (Nat.le_succ _))

variable [Sha256] [RetryClock]

/-- A delivery stays within its budget, a direct record may leave it by two. -/
theorem step_spent (op : Operation) {w : World} (inside : InStretch intentId limit op)
    (spent : Spent limit records (track intentId w.outbox)) :
    Spent limit (records + if direct intentId op then 1 else 0)
      (track intentId (step w op).outbox) := by
  have still : ∀ {t : Track} {k : Nat}, t = track intentId w.outbox →
      Spent limit (records + k) t := by
    intro t k same
    subst same
    unfold Spent at spent ⊢
    omega
  cases op with
  | create committed decision options =>
    rcases @track_create intentId _ w.outbox committed decision options with
      same | ⟨intent, absent, pending, unused, shown, placed⟩
    · exact still (by rw [step_create, same])
    · change Spent limit records _
      rw [step_create, placed, spent_open (by rw [pending]; rfl)]
      rw [track, absent] at spent
      exact spent
  | record candidate =>
    rcases @track_record intentId w.outbox candidate with
      same | ⟨own, intent, held, follows, placed⟩
    · exact still (by rw [step_record, same])
    · have counted : direct intentId (.record candidate) = true := decide_eq_true own
      have before := spent.le
      rw [step_record, placed, counted, if_pos rfl]
      refine Nat.le_trans ?_ (Nat.le_add_right _ _)
      rw [List.length_append, List.length_singleton]
      change (rowsOf w.outbox.attempts intentId).length ≤ _ at before
      omega
  | deliver delivered worker cut =>
    have reached := delivery_reached w delivered worker cut
    by_cases own : intentId = delivered
    · subst own
      exact path_keeps (reached_own reached)
        (fun _ _ delivers => delivers_spent delivers (inside rfl)) spent
    · exact still (reached_other reached own)
  | retry retried retryAt =>
    rcases @track_retry intentId retried w.outbox retryAt with same | ⟨own, _⟩
    · exact still (by rw [step_retry, same])
    · exact absurd own inside
  | block given updatedAt =>
    rcases @track_block intentId given w.outbox updatedAt with
      same | ⟨_, intent, held, opened, placed⟩
    · exact still (by rw [step_block, same])
    · rw [track, held, spent_open opened] at spent
      change Spent limit records _
      rw [step_block, placed, spent_ended rfl]
      exact spent.trans (Nat.le_succ _)

theorem run_spent (operations : List Operation) {w : World}
    (inside : ∀ op ∈ operations, InStretch intentId limit op)
    (spent : Spent limit records (track intentId w.outbox)) :
    Spent limit (records + operations.countP (direct intentId))
      (track intentId (Runs.run step w operations).outbox) := by
  induction operations generalizing w records with
  | nil => exact spent
  | cons op rest ih =>
    have later := ih (fun other member => inside other (List.mem_cons_of_mem op member))
      (step_spent op (inside op List.mem_cons_self) spent)
    rw [List.countP_cons, Nat.add_comm (List.countP _ rest), ← Nat.add_assoc]
    exact later

/-- In every run from empty tables the attempts of an intent are numbered from one
without gaps and counted by the intent, whose binding stays as it was. Between retries
no more attempts are recorded than the policies allow and a fallback, with two more for
each attempt recorded from outside of a delivery: itself and a fallback after it. -/
theorem attempts_accounted (clock : Nat → Except Raised String) (ports : Nat → PortAnswer)
    (first later : List Operation) (intentId : String) :
    let w := Runs.run step (opened clock ports) first
    let v := Runs.run step w later
    (rowsOf v.outbox.attempts intentId).map (·.attemptNumber) =
        List.range' 1 (count intentId v) ∧
      (v.outbox.intents intentId = none → count intentId v = 0) ∧
      (∀ intent ∈ v.outbox.intents intentId, intent.attemptCount = count intentId v) ∧
      (∀ before ∈ w.outbox.intents intentId, ∃ after ∈ v.outbox.intents intentId,
        SameBinding before after) ∧
      ∀ maxAttempts, (∀ op ∈ later, InStretch intentId maxAttempts op) →
        count intentId v ≤
          count intentId w + (maxAttempts + 1) + 2 * later.countP (direct intentId) := by
  intro w v
  have accounted : Accounted (track intentId v.outbox) :=
    run_track moved_accounted later w (run_track moved_accounted first _ rfl)
  refine ⟨v.outbox.contiguous intentId, fun absent => ?_, fun intent held => ?_,
    fun before held => ?_, fun maxAttempts inside => ?_⟩
  · rw [track, absent] at accounted
    exact congrArg List.length accounted
  · rw [track, Option.mem_def.mp held] at accounted
    exact accounted
  · exact run_track moved_keeps later w ⟨before, held, sameBinding_refl before⟩
  · have wider : ∀ op ∈ later, InStretch intentId (count intentId w + maxAttempts) op := by
      intro op member
      have narrow := inside op member
      cases op with
      | deliver other worker cut => exact fun own => (narrow own).trans (Nat.le_add_left _ _)
      | retry other retryAt => exact narrow
      | create committed decision options => trivial
      | record candidate => trivial
      | block other updatedAt => trivial
    have begun : Spent (count intentId w + maxAttempts) 0 (track intentId w.outbox) := by
      change count intentId w ≤ _
      omega
    have spent : count intentId v ≤ _ := (run_spent later wider begun).le
    omega

/-! ## Records from outside of a delivery -/

omit [Sha256] [RetryClock]

/-- The next attempt of a known intent is recorded. -/
theorem record_next {o : WakeupOutbox} {intent : WakeupIntent} {a : WakeupDeliveryAttempt}
    (held : o.intents intentId = some intent) (own : a.intentId = intentId)
    (checked : a.check = .ok ()) (fresh : ∀ row ∈ o.attempts, row.attemptId ≠ a.attemptId)
    (next : a.attemptNumber = (rowsOf o.attempts intentId).length + 1) :
    (o.recordDeliveryAttempt a).2.intents intentId = some (summarized intent a) ∧
      (o.recordDeliveryAttempt a).2.attempts = o.attempts ++ [a] := by
  subst own
  have named : requiredText a.intentId "WakeupDeliveryAttempt.intent_id" = .ok () := by
    obtain ⟨_, _, later⟩ := bind_ok.mp checked
    obtain ⟨_, named, _⟩ := bind_ok.mp later
    exact named
  have unlisted : o.attempts.find? (·.attemptId = a.attemptId) = none :=
    List.find?_eq_none.mpr fun row member same => fresh row member (of_decide_eq_true same)
  have free : (rowsOf o.attempts a.intentId).all (·.attemptNumber ≠ a.attemptNumber) = true := by
    refine List.all_eq_true.mpr fun row member => decide_eq_true fun taken => ?_
    have listed := List.mem_map_of_mem (f := (·.attemptNumber)) member
    rw [o.contiguous a.intentId, List.mem_range'] at listed
    obtain ⟨i, inside, place⟩ := listed
    omega
  have admitted : o.attemptAdmission a = .ok (intent, none) := by
    unfold WakeupOutbox.attemptAdmission
    rw [named, ok_bind, checked, ok_bind, held]
    dsimp only
    rw [unlisted]
    dsimp only
    rw [ensure_of free, ok_bind]
    rfl
  have place : a.attemptNumber = maxNumber o.attempts a.intentId + 1 := by
    rw [o.contiguous.maxNumber_eq]
    exact next
  unfold WakeupOutbox.recordDeliveryAttempt
  rw [admitted]
  dsimp only
  rw [dif_pos place]
  refine ⟨?_, rfl⟩
  have key : intent.intentId = a.intentId := o.keyed _ _ held
  change Function.update o.intents intent.intentId (some (summarized intent a)) a.intentId = _
  rw [key, Function.update_self]

theorem create_fresh [Sha256] {o : WakeupOutbox} {committed : DispatchCommitted}
    {decision : WakeupDecision} {options : IntentOptions} {candidate : WakeupIntent}
    (allowed : admittedIntent committed decision options = .ok candidate)
    (absent : o.intents candidate.intentId = none) :
    (createIntent o committed decision options).2 = o.updateIntent candidate := by
  unfold createIntent
  rw [allowed]
  dsimp only
  rw [absent]

@[reducible] def requestHash : Sha256 where
  bits _ := 5

/-- The committed dispatch of a request to the node `api`. -/
def requestCommitted : DispatchCommitted where
  preparedId := "prepared"
  identity :=
    { runId := "run", nodeId := "api", planVersion := "1"
      contractDigest := (Digest.ofNat 1).value, boundaryDigest := (Digest.ofNat 2).value
      sourceDigest := (Digest.ofNat 3).value, attemptId := "attempt", leaseGeneration := 1
      fencingToken := "fence", messageId := "message", idempotencyKey := "idempotency" }
  stateVersion := 1
  mailboxRef := "mailbox"
  expectedMailboxSeq := -1
  mailboxSeq := 0
  eventId := "mailbox:event-0"
  messageId := "message"
  envelopeDigest := (Digest.ofNat 6).value
  eventDigest := (Digest.ofNat 7).value
  readbackVerified := true
  committedId := "committed"
  committedAt := "2026-01-02T00:00:00+00:00"

/-- The pointer of the request was sent before. -/
def requestDecision : WakeupDecision where
  dispatchId := "committed"
  mailboxRef := "mailbox"
  mailboxSeq := 0
  envelopeDigest := requestCommitted.envelopeDigest
  eventDigest := requestCommitted.eventDigest
  signal := none

def smsOptions : IntentOptions where
  recipient := "executor"
  createdAt := "2026-01-02T00:00:00+00:00"
  fallback := some "sms"

def requestIntent : WakeupIntent := @candidateIntent requestHash requestCommitted smsOptions

@[reducible] def requestStep : World → Operation → World := @step requestHash sameTime

theorem strip_digest (d : Digest) : strip d.value ≠ "" := by
  rw [Digest.strip_value]
  exact Digest.value_ne_empty d

theorem digestText_value (d : Digest) (name : String) : digestText d.value name = .ok () :=
  bind_ok.mpr ⟨(), ensure_of (strip_digest d) _, ensure_of d.digest _⟩

theorem strip_requestIntentId : strip requestIntent.intentId ≠ "" :=
  strip_append (.inl (by decide))

theorem fallback_solid : ∀ text ∈ some "sms", strip text ≠ "" := by
  decide

theorem requestIntent_checked : @checkIntent requestHash requestIntent = .ok () := by
  refine bind_ok.mpr ⟨(), checkAll_ok.mpr ?_, bind_ok.mpr ⟨(), digestText_value _ _,
    bind_ok.mpr ⟨(), digestText_value _ _, bind_ok.mpr ⟨(), digestText_value _ _,
    bind_ok.mpr ⟨(), ensure_of rfl _, bind_ok.mpr ⟨(), ensure_of rfl _,
    bind_ok.mpr ⟨(), ensure_of (by decide) _, bind_ok.mpr ⟨(), rfl,
    bind_ok.mpr ⟨(), optionalText_ok.mpr fallback_solid, ensure_of nofun _⟩⟩⟩⟩⟩⟩⟩⟩⟩
  simp only [List.forall_mem_cons, requiredText_ok]
  exact ⟨strip_requestIntentId, by decide, by decide, by decide, by decide, by decide, by decide,
    by decide, by decide, List.forall_mem_nil _⟩

theorem requestIntent_admitted :
    @admittedIntent requestHash requestCommitted requestDecision smsOptions = .ok requestIntent := by
  have pointer : validateCommittedPointer requestCommitted requestDecision "executor" =
      .ok requestCommitted :=
    bind_ok.mpr ⟨(), ensure_of (by decide) _, bind_ok.mpr ⟨(), ensure_of rfl _,
      bind_ok.mpr ⟨(), ensure_of ⟨rfl, rfl, rfl, rfl, rfl⟩ _,
      bind_ok.mpr ⟨(), ensure_of (fun _ member => nomatch member) _, rfl⟩⟩⟩⟩
  exact bind_ok.mpr ⟨_, pointer, bind_ok.mpr ⟨(), ensure_of (by decide) _,
    bind_ok.mpr ⟨(), ensure_of (by decide) _, bind_ok.mpr ⟨(), rfl,
    bind_ok.mpr ⟨(), optionalText_ok.mpr fallback_solid, bind_ok.mpr ⟨(), ensure_of nofun _,
    bind_ok.mpr ⟨(), requestIntent_checked, rfl⟩⟩⟩⟩⟩⟩⟩

/-- Empty tables, a clock that stands still and ports that accept. -/
def firstWorld : World := opened (fun _ => .ok "2026-01-02T00:00:00+00:00") fun _ => .accepted

/-- The outbox with the intent of the request. -/
def requestWorld : World :=
  requestStep firstWorld (.create requestCommitted requestDecision smsOptions)

theorem requestWorld_outbox :
    requestWorld.outbox = firstWorld.outbox.updateIntent requestIntent := by
  unfold requestWorld requestStep
  rw [@step_create requestHash sameTime]
  exact @create_fresh requestHash _ _ _ _ _ requestIntent_admitted rfl

theorem requestWorld_held :
    requestWorld.outbox.intents requestIntent.intentId = some requestIntent := by
  rw [requestWorld_outbox]
  unfold WakeupOutbox.updateIntent
  dsimp only
  rw [Function.update_self]

/-- An attempt of the request recorded from outside. -/
def failedAttempt (attemptId : String) (attemptNumber : Nat) : WakeupDeliveryAttempt where
  attemptId
  intentId := requestIntent.intentId
  attemptNumber
  state := .failed
  attemptedAt := "2026-01-02T00:00:00+00:00"

theorem failedAttempt_checked {attemptId : String} {attemptNumber : Nat}
    (named : strip attemptId ≠ "") (positive : 0 < attemptNumber) :
    (failedAttempt attemptId attemptNumber).check = .ok () :=
  have timed : strip "2026-01-02T00:00:00+00:00" ≠ "" := by decide
  bind_ok.mpr ⟨(), ensure_of named _, bind_ok.mpr ⟨(), ensure_of strip_requestIntentId _,
    bind_ok.mpr ⟨(), ensure_of positive _, bind_ok.mpr ⟨(), requiredText_ok.mpr timed, rfl⟩⟩⟩⟩

theorem rowsOf_own {rows : List WakeupDeliveryAttempt} {id : String}
    (own : ∀ row ∈ rows, row.intentId = id) : rowsOf rows id = rows :=
  List.filter_eq_self.mpr fun row member => decide_eq_true (own row member)

/-- A delivery whose policy allows one attempt crashes at once, and three failed attempts
are recorded from outside, without a retry between them. -/
theorem direct_records_exceed_budget :
    let later := [.deliver requestIntent.intentId smsWorker 0, .record (failedAttempt "first" 1),
      .record (failedAttempt "second" 2), .record (failedAttempt "third" 3)]
    (∀ op ∈ later, InStretch requestIntent.intentId 1 op) ∧
      ¬ count requestIntent.intentId (Runs.run requestStep requestWorld later) ≤
        count requestIntent.intentId requestWorld + (1 + 1) := by
  intro later
  have empty : requestWorld.outbox.attempts = [] := by
    rw [requestWorld_outbox]
    rfl
  have third : (Runs.run requestStep requestWorld later).outbox.attempts =
      [failedAttempt "first" 1, failedAttempt "second" 2, failedAttempt "third" 3] := by
    obtain ⟨held, first⟩ := record_next (a := failedAttempt "first" 1) requestWorld_held rfl
      (failedAttempt_checked (by decide) (by decide))
      (by rw [empty]; exact List.forall_mem_nil _) (by rw [empty]; rfl)
    rw [empty] at first
    obtain ⟨held, second⟩ := record_next (a := failedAttempt "second" 2) held rfl
      (failedAttempt_checked (by decide) (by decide)) (by rw [first]; simp [failedAttempt])
      (by rw [first]; rw [rowsOf_own (by simp [failedAttempt])]; rfl)
    rw [first] at second
    obtain ⟨_, third⟩ := record_next (a := failedAttempt "third" 3) held rfl
      (failedAttempt_checked (by decide) (by decide)) (by rw [second]; simp [failedAttempt])
      (by rw [second]; rw [rowsOf_own (by simp [failedAttempt])]; rfl)
    rw [second] at third
    have crashed : @step requestHash sameTime requestWorld
        (.deliver requestIntent.intentId smsWorker 0) = requestWorld := by
      rw [@step_deliver requestHash sameTime, Prog.runFor]
    simp only [later, Runs.run_cons, Runs.run_nil, requestStep, crashed,
      @step_record requestHash sameTime]
    simp only [List.nil_append, List.cons_append] at third
    exact third
  refine ⟨?_, ?_⟩
  · simp only [later, List.forall_mem_cons]
    exact ⟨fun _ => le_refl 1, trivial, trivial, trivial, List.forall_mem_nil _⟩
  · have three : count requestIntent.intentId (Runs.run requestStep requestWorld later) = 3 := by
      unfold count
      rw [third, rowsOf_own (by simp [failedAttempt])]
      rfl
    have none_yet : count requestIntent.intentId requestWorld = 0 := by
      unfold count
      rw [empty]
      rfl
    rw [three, none_yet]
    decide

theorem attempts_accounted_delivered :
    let w := Runs.run (@step requestHash sameTime)
      (opened (fun _ => .ok "2026-01-02T00:00:00+00:00") fun _ => .accepted)
      [.create requestCommitted requestDecision smsOptions]
    let later := [.deliver requestIntent.intentId smsWorker 3,
      .deliver requestIntent.intentId smsWorker 100]
    let v := Runs.run (@step requestHash sameTime) w later
    count requestIntent.intentId v ≤ count requestIntent.intentId w + (1 + 1) +
      2 * later.countP (direct requestIntent.intentId) := by
  intro w later v
  have inside : ∀ op ∈ later, InStretch requestIntent.intentId 1 op := by
    simp only [later, List.forall_mem_cons]
    exact ⟨fun _ => le_refl 1, fun _ => le_refl 1, List.forall_mem_nil _⟩
  exact (@attempts_accounted requestHash sameTime _ _ _ later _).2.2.2.2 1 inside

end DwSuperApps.Guarantees.WakeupRuns
