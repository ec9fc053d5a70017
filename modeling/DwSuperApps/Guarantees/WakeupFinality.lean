import DwSuperApps.Source.Wakeup

/-!
# Delivered wakeups

Any number of workers deliver one intent, one outbox or port call at a time, while
retries are prepared. The number of an attempt is never more than one past the
attempts recorded, and a worker between the start of its attempt and its record has
a number that is already taken once the intent is DELIVERED. So the record is
refused and DELIVERED stays, unless a worker turns to the fallback of an intent
that has been delivered since it last looked at its state.
-/
namespace DwSuperApps.Guarantees.WakeupFinality

open DwSuperApps.Lib DwSuperApps.Lib.Checked
open DwSuperApps.Lib.Programs (Prog Pool Action Discipline)
open DwSuperApps.Source.Envelope DwSuperApps.Source.Wakeup

variable (intentId : String)

/-! ## Final states -/

def Delivered (w : World) : Prop :=
  ∃ intent ∈ w.outbox.intents intentId, intent.state = .delivered

instance (w : World) : Decidable (Delivered intentId w) :=
  decidable_of_iff ((w.outbox.intents intentId).any (·.state = .delivered) = true) (by
    unfold Delivered
    cases w.outbox.intents intentId with
    | none => simp
    | some intent => simp)

/-- The attempts recorded for the intent. -/
def count (w : World) : Nat := (rowsOf w.outbox.attempts intentId).length

/-- The attempt of a port call had begun before: its number is taken, and its pointer
was read before the intent was DELIVERED. -/
def Begun (w : World) (call : Invocation) : Prop :=
  call.attemptNumber ≤ count intentId w ∧ call.intent.state ≠ .delivered

/-- What the steps of others may do. Attempts are only added, DELIVERED comes with
an attempt, and from then on the outbox stays and ports see only attempts begun. -/
structure Settles (s t : World) : Prop where
  counted : count intentId s ≤ count intentId t
  marked : Delivered intentId t → Delivered intentId s ∨ count intentId s < count intentId t
  final : ∃ news, t.invocations = s.invocations ++ news ∧ (Delivered intentId s →
    t.outbox = s.outbox ∧ ∀ call ∈ news, Begun intentId s call)

/-- No number is more than one past the recorded attempts. -/
def Known (n : Nat) (w : World) : Prop := n ≤ count intentId w + 1

/-- The number of an attempt between its start and its record. -/
structure Started (n : Nat) (w : World) : Prop where
  known : Known intentId n w
  taken : Delivered intentId w → n ≤ count intentId w

variable {intentId}

theorem count_congr {s t : World} (same : t.outbox = s.outbox) :
    count intentId t = count intentId s := by
  unfold count
  rw [same]

theorem delivered_congr {s t : World} (same : t.outbox = s.outbox) :
    Delivered intentId t ↔ Delivered intentId s := by
  unfold Delivered
  rw [same]

/-- A step that leaves the outbox and calls no port. -/
theorem settles_quiet {s t : World} (outbox : t.outbox = s.outbox)
    (calls : t.invocations = s.invocations) : Settles intentId s t where
  counted := (count_congr outbox).ge
  marked delivered := .inl ((delivered_congr outbox).mp delivered)
  final := ⟨[], by rw [calls, List.append_nil], fun _ => ⟨outbox, fun _ member => nomatch member⟩⟩

/-- A step that changes the outbox only while the intent is not DELIVERED. -/
theorem settles_open {s t : World} (calls : t.invocations = s.invocations)
    (counted : count intentId s ≤ count intentId t)
    (marked : Delivered intentId t → count intentId s < count intentId t)
    (opened : ¬ Delivered intentId s) : Settles intentId s t where
  counted := counted
  marked delivered := .inr (marked delivered)
  final := ⟨[], by rw [calls, List.append_nil], fun delivered => absurd delivered opened⟩

theorem Settles.trans {a b c : World} (first : Settles intentId a b)
    (second : Settles intentId b c) : Settles intentId a c where
  counted := first.counted.trans second.counted
  marked delivered := by
    rcases second.marked delivered with before | risen
    · rcases first.marked before with start | risen
      · exact .inl start
      · exact .inr (risen.trans_le second.counted)
    · exact .inr (first.counted.trans_lt risen)
  final := by
    obtain ⟨xs, called, held⟩ := first.final
    obtain ⟨ys, called', held'⟩ := second.final
    refine ⟨xs ++ ys, by rw [called', called, List.append_assoc], fun delivered => ?_⟩
    obtain ⟨same, begun⟩ := held delivered
    obtain ⟨same', begun'⟩ := held' ((delivered_congr same).mpr delivered)
    refine ⟨same'.trans same, fun call member => ?_⟩
    rcases List.mem_append.mp member with early | late
    · exact begun call early
    · obtain ⟨taken, read⟩ := begun' call late
      exact ⟨count_congr same ▸ taken, read⟩

theorem Known.after {n : Nat} {s t : World} (known : Known intentId n s)
    (moved : Settles intentId s t) : Known intentId n t := by
  have := moved.counted
  unfold Known at known ⊢
  omega

theorem Started.after {n : Nat} {s t : World} (started : Started intentId n s)
    (moved : Settles intentId s t) : Started intentId n t := by
  refine ⟨started.known.after moved, fun delivered => ?_⟩
  have known := started.known
  unfold Known at known
  rcases moved.marked delivered with before | risen
  · exact (started.taken before).trans moved.counted
  · omega

theorem Known.started {n : Nat} {w : World} (known : Known intentId n w)
    (opened : ¬ Delivered intentId w) : Started intentId n w :=
  ⟨known, fun delivered => absurd delivered opened⟩

/-! ## Outbox calls -/

theorem updateIntent_delivered {o : WakeupOutbox} {intent : WakeupIntent} {w : World}
    (own : intent.intentId = intentId) (outbox : w.outbox = o.updateIntent intent) :
    Delivered intentId w ↔ intent.state = .delivered := by
  subst own
  unfold Delivered
  rw [outbox]
  change (∃ held, Function.update o.intents intent.intentId (some intent) intent.intentId =
    some held ∧ _) ↔ _
  rw [Function.update_self]
  constructor
  · rintro ⟨held, same, delivered⟩
    rw [Option.some.inj same]
    exact delivered
  · exact fun delivered => ⟨intent, rfl, delivered⟩

/-- The row of an intent after the record of an attempt. -/
def summarized (intent : WakeupIntent) (a : WakeupDeliveryAttempt) : WakeupIntent :=
  { intent with
    state := a.state.intentState
    attemptCount := a.attemptNumber
    nextAttemptAt := a.retryAt
    updatedAt := a.attemptedAt }

/-- A record is refused, is the row that is there already, or appends the next row of a
known intent. -/
theorem record_cases (o : WakeupOutbox) (candidate : WakeupDeliveryAttempt) :
    (∃ e, o.recordDeliveryAttempt candidate = (.error e, o)) ∨
    (candidate ∈ o.attempts ∧ o.recordDeliveryAttempt candidate = (.ok candidate, o)) ∨
    (candidate.attemptNumber = maxNumber o.attempts candidate.intentId + 1 ∧
      ∃ (appended : WakeupOutbox) (intent : WakeupIntent),
        appended.attempts = o.attempts ++ [candidate] ∧ appended.intents = o.intents ∧
        o.intents candidate.intentId = some intent ∧ candidate.check = .ok () ∧
        o.recordDeliveryAttempt candidate =
          (.ok candidate, appended.updateIntent (summarized intent candidate))) := by
  unfold WakeupOutbox.recordDeliveryAttempt
  cases admitted : o.attemptAdmission candidate with
  | error e => exact .inl ⟨e, rfl⟩
  | ok row =>
    obtain ⟨intent, existing⟩ := row
    unfold WakeupOutbox.attemptAdmission at admitted
    obtain ⟨_, _, admitted⟩ := bind_ok.mp admitted
    obtain ⟨_, checked, admitted⟩ := bind_ok.mp admitted
    split at admitted
    · cases admitted
    · next held found =>
      split at admitted
      · next row listed =>
        obtain ⟨_, same, admitted⟩ := bind_ok.mp admitted
        cases admitted
        have equal := ensure_ok.mp same
        refine .inr (.inl ⟨equal ▸ List.mem_of_find?_eq_some listed, ?_⟩)
        rw [equal]
      · obtain ⟨_, _, admitted⟩ := bind_ok.mp admitted
        cases admitted
        by_cases next : candidate.attemptNumber = maxNumber o.attempts candidate.intentId + 1
        · dsimp only
          rw [dif_pos next]
          refine .inr (.inr ⟨next, ⟨_, intent, ?_, ?_, found, checked, rfl⟩⟩)
          · rfl
          · rfl
        · dsimp only
          rw [dif_neg next]
          exact .inl ⟨_, rfl⟩

/-- A row of the intent has a taken number. -/
theorem number_le {w : World} {row : WakeupDeliveryAttempt} (member : row ∈ w.outbox.attempts)
    (own : row.intentId = intentId) : row.attemptNumber ≤ count intentId w := by
  have listed : row.attemptNumber ∈ (rowsOf w.outbox.attempts intentId).map (·.attemptNumber) := by
    refine List.mem_map.mpr ⟨row, List.mem_filter.mpr ⟨member, decide_eq_true own⟩, rfl⟩
  rw [w.outbox.contiguous intentId, List.mem_range'] at listed
  obtain ⟨i, inside, place⟩ := listed
  unfold count
  omega

/-- Recording a started attempt settles, and takes its number when it succeeds. -/
theorem settles_record {w : World} {candidate : WakeupDeliveryAttempt}
    (own : candidate.intentId = intentId) (started : Started intentId candidate.attemptNumber w) :
    let after := { w with outbox := (w.outbox.recordDeliveryAttempt candidate).2 }
    Settles intentId w after ∧ ∀ row, (w.outbox.recordDeliveryAttempt candidate).1 = .ok row →
      candidate.attemptNumber ≤ count intentId after := by
  intro after
  rcases record_cases w.outbox candidate with
    ⟨e, outcome⟩ | ⟨member, outcome⟩ | ⟨next, appended, intent, rows, _, _, _, outcome⟩
  · have same : after.outbox = w.outbox := congrArg Prod.snd outcome
    refine ⟨settles_quiet same rfl, fun row returned => ?_⟩
    rw [outcome] at returned
    cases returned
  · have same : after.outbox = w.outbox := congrArg Prod.snd outcome
    exact ⟨settles_quiet same rfl, fun _ _ => count_congr same ▸ number_le member own⟩
  · have placed : after.outbox = appended.updateIntent (summarized intent candidate) :=
      congrArg Prod.snd outcome
    rw [own, w.outbox.contiguous.maxNumber_eq] at next
    have risen : count intentId after = count intentId w + 1 := by
      unfold count
      rw [placed]
      change (rowsOf appended.attempts intentId).length = _
      rw [rows, rowsOf_append, if_pos own, List.length_append, List.length_singleton]
    have opened : ¬ Delivered intentId w := by
      intro delivered
      have taken := started.taken delivered
      unfold count at taken
      omega
    refine ⟨settles_open rfl (by omega) (fun _ => by omega) opened, fun _ _ => ?_⟩
    rw [risen]
    exact next.le

theorem getIntent_ok {o : WakeupOutbox} {intent : WakeupIntent}
    (held : o.getIntent intentId = .ok intent) :
    o.intents intentId = some intent ∧ intent.intentId = intentId := by
  unfold WakeupOutbox.getIntent at held
  obtain ⟨_, _, held⟩ := bind_ok.mp held
  split at held
  · cases held
  · next row found =>
    cases held
    exact ⟨found, o.keyed _ _ found⟩

/-- The intent that was read is DELIVERED exactly when the world is. -/
theorem delivered_iff {w : World} {intent : WakeupIntent}
    (held : w.outbox.intents intentId = some intent) :
    Delivered intentId w ↔ intent.state = .delivered := by
  unfold Delivered
  rw [held]
  constructor
  · rintro ⟨other, same, delivered⟩
    rw [Option.some.inj same]
    exact delivered
  · exact fun delivered => ⟨intent, rfl, delivered⟩

/-- An update between states that are not DELIVERED. -/
theorem settles_update {w : World} {current stored : WakeupIntent}
    (held : w.outbox.intents intentId = some current) (opened : current.state ≠ .delivered)
    (own : stored.intentId = intentId) (open_after : stored.state ≠ .delivered) :
    Settles intentId w { w with outbox := w.outbox.updateIntent stored } := by
  refine settles_open rfl (le_refl _) (fun delivered => ?_) fun delivered => ?_
  · exact absurd ((updateIntent_delivered own rfl).mp delivered) open_after
  · exact opened ((delivered_iff held).mp delivered)

theorem settles_block (w : World) (updatedAt : String) :
    Settles intentId w { w with outbox := (w.outbox.markIntentBlocked intentId updatedAt).2 } := by
  unfold WakeupOutbox.markIntentBlocked
  split
  · exact settles_quiet rfl rfl
  · exact settles_quiet rfl rfl
  · exact settles_quiet rfl rfl
  · next current _ _ read =>
    split
    · exact settles_quiet rfl rfl
    · next not_terminal =>
      obtain ⟨held, own⟩ := getIntent_ok read
      refine settles_update held (fun delivered => not_terminal ?_) own nofun
      rw [delivered]
      rfl

theorem settles_retry (w : World) (retryAt : String) :
    Settles intentId w { w with outbox := (w.outbox.prepareRetry intentId retryAt).2 } := by
  unfold WakeupOutbox.prepareRetry
  split
  · exact settles_quiet rfl rfl
  · exact settles_quiet rfl rfl
  · exact settles_quiet rfl rfl
  · next current _ _ held =>
    split
    · exact settles_quiet rfl rfl
    · next opened =>
      have own := w.outbox.keyed _ _ held
      exact settles_update held opened own nofun

/-! ## The workers -/

variable [RetryClock]

/-- The next step of the worker turns to the fallback: it reads the attempts when its
policy allows no more, or the intent again after its last own attempt. -/
def TurnsToFallback (intentId : String) (worker : Worker) (p : Delivery WakeupDeliveryResult)
    (w : World) : Prop :=
  (∃ current capability, p = chooseAttempt intentId worker current ∧
    fallbackCallback current worker = some capability ∧
    worker.policy.maxAttempts ≤ count intentId w) ∨
  ∃ attemptNumber capability, p = resumeFallback intentId attemptNumber capability

/-- What the workers of an intent rely on and guarantee. -/
def discipline (intentId : String) : Discipline World Raised WakeupDeliveryResult Worker where
  inv _ := True
  rely := Settles intentId
  admitted worker p w := Delivered intentId w → ¬ TurnsToFallback intentId worker p w
  guarantee _ s _ t := Settles intentId s t
  post _ _ _ := True
  refl _ _ := settles_quiet rfl rfl
  trans _ _ _ := Settles.trans
  keeps _ _ _ _ _ met := ⟨trivial, met⟩

variable {worker : Worker} {w : World}

section Steps
variable {β : Type} {f : β → Delivery WakeupDeliveryResult}

/-- Programs every step of which settles whatever the state. -/
theorem sat_effects {p : Delivery WakeupDeliveryResult}
    (harmless : p.Effects fun effect => ∀ s, Settles intentId s (effect s)) :
    (discipline intentId).Sat worker p w := by
  induction p generalizing w with
  | done r => exact fun _ _ _ => trivial
  | atomic next effect ih => exact fun t _ _ _ => ⟨harmless.1 t, ih t (harmless.2 t)⟩

theorem sat_clock {f : String → Delivery WakeupDeliveryResult}
    (later : ∀ now, (discipline intentId).Sat worker (f now) w) :
    (discipline intentId).Sat worker (clockTimestamp >>= f) w := by
  have quiet : clockTimestamp.Effects fun effect => ∀ s, Settles intentId s (effect s) :=
    ⟨fun _ => settles_quiet rfl rfl, fun _ => trivial⟩
  exact Discipline.Sat.effects (fun _ _ => trivial) (fun _ met t _ _ => met t) quiet later

/-- A reading of the shared state, and what comes after it. -/
theorem sat_observe {view : World → Except Raised β}
    (each : ∀ t, Settles intentId w t →
      (Delivered intentId t → ¬ TurnsToFallback intentId worker (Prog.observe view >>= f) t) →
      ∀ b, view t = .ok b → (discipline intentId).Sat worker (f b) t) :
    (discipline intentId).Sat worker (Prog.observe view >>= f) w := by
  change (discipline intentId).Sat worker (Prog.operation (fun s => (view s, s)) >>= f) w
  exact Discipline.Sat.operation (fun _ _ => trivial)
    fun t _ moved admitted => ⟨fun _ => settles_quiet rfl rfl, each t moved admitted⟩

/-- A port call of a started attempt. -/
theorem sat_call {call : Invocation} {f : PortAnswer → Delivery WakeupDeliveryResult}
    (started : Started intentId call.attemptNumber w) (read : call.intent.state ≠ .delivered)
    (each : ∀ answer t, Started intentId call.attemptNumber t →
      (discipline intentId).Sat worker (f answer) t) :
    (discipline intentId).Sat worker (invokeDeliveryCallback call >>= f) w := by
  refine Discipline.Sat.operation (fun _ _ => trivial) fun t _ moved _ => ?_
  have here := started.after moved
  have settled : Settles intentId t { t with invocations := t.invocations ++ [call] } := by
    refine ⟨le_refl _, .inl, [call], rfl, fun delivered => ⟨rfl, fun other member => ?_⟩⟩
    rw [List.mem_singleton.mp member]
    exact ⟨here.taken delivered, read⟩
  exact ⟨fun _ => settled, fun answer _ => each answer _ (here.after settled)⟩

theorem sat_record {candidate : WakeupDeliveryAttempt}
    {f : WakeupDeliveryAttempt → Delivery WakeupDeliveryResult}
    (own : candidate.intentId = intentId) (started : Started intentId candidate.attemptNumber w)
    (each : ∀ row t, candidate.attemptNumber ≤ count intentId t →
      (discipline intentId).Sat worker (f row) t) :
    (discipline intentId).Sat worker (recordDeliveryAttempt candidate >>= f) w := by
  refine Discipline.Sat.operation (fun _ _ => trivial) fun t _ moved _ => ?_
  obtain ⟨settled, taken⟩ := settles_record own (started.after moved)
  exact ⟨fun _ => settled, fun row returned => each row _ (taken row returned)⟩

end Steps

omit [RetryClock] in
theorem effects_deliveryResult (intent : WakeupIntent) :
    (deliveryResult intent).Effects fun effect => ∀ s, Settles intentId s (effect s) := by
  unfold deliveryResult
  split
  · trivial
  · refine (Prog.effects_observe (fun _ => settles_quiet rfl rfl) _).bind fun attempts => ?_
    dsimp only
    split
    · trivial
    · trivial

theorem sat_finish (other : String) :
    (discipline intentId).Sat worker (getIntent other >>= deliveryResult) w :=
  sat_effects ((Prog.effects_observe (fun _ => settles_quiet rfl rfl) _).bind effects_deliveryResult)

theorem sat_giveUp : (discipline intentId).Sat worker (giveUp intentId) w := by
  refine sat_clock fun now => sat_effects ?_
  have block : (markIntentBlocked intentId now).Effects fun effect => ∀ s, Settles intentId s (effect s) :=
    ⟨fun s => settles_block s now, fun _ => trivial⟩
  exact block.bind effects_deliveryResult

theorem sat_deliverFallback {intent : WakeupIntent} (own : intent.intentId = intentId)
    (read : intent.state ≠ .delivered) {n : Nat} (started : Started intentId n w)
    (capability : String) :
    (discipline intentId).Sat worker (deliverFallback intent n capability) w := by
  unfold deliverFallback
  refine sat_clock fun now => sat_call started read fun answer t started => ?_
  obtain ⟨accepted, code, detail⟩ := answer.outcome
  cases accepted with
  | true => exact sat_record own started fun _ _ _ => sat_finish _
  | false => exact sat_record own started fun _ _ _ => sat_finish _

/-- Turning to the fallback while the intent is open starts its attempt. -/
theorem sat_resumeFallback {n : Nat} (known : Known intentId n w) (capability : String) :
    (discipline intentId).Sat worker (resumeFallback intentId n capability) w := by
  refine sat_observe fun t moved admitted intent read => ?_
  have opened : ¬ Delivered intentId t := fun delivered =>
    admitted delivered (.inr ⟨n, capability, rfl⟩)
  obtain ⟨held, own⟩ := getIntent_ok read
  exact sat_deliverFallback own (fun delivered => opened ((delivered_iff held).mpr delivered))
    ((known.after moved).started opened) capability

theorem sat_attemptLoop (remaining : Nat) {n : Nat} (known : Known intentId n w) :
    (discipline intentId).Sat worker (attemptLoop intentId worker remaining n) w := by
  induction remaining generalizing n w with
  | zero => exact sat_giveUp
  | succ remaining ih =>
    unfold attemptLoop
    refine sat_observe fun t moved _ current read => ?_
    obtain ⟨held, own⟩ := getIntent_ok read
    split
    · exact sat_effects (effects_deliveryResult current)
    · next not_terminal =>
      have open_state : current.state ≠ .delivered := by
        intro delivered
        rw [delivered] at not_terminal
        exact not_terminal rfl
      have opened : ¬ Delivered intentId t := fun delivered =>
        open_state ((delivered_iff held).mp delivered)
      refine sat_clock fun now => sat_call ((known.after moved).started opened) open_state
        fun answer u started => ?_
      obtain ⟨accepted, code, detail⟩ := answer.outcome
      cases accepted with
      | true => exact sat_record rfl started fun _ _ _ => sat_finish _
      | false =>
        simp only [Bool.false_eq_true, if_false]
        split
        · refine Discipline.Sat.lift (fun _ _ => trivial) _ fun delay _ => ?_
          exact sat_record rfl started fun _ v taken => ih (Nat.succ_le_succ taken)
        · cases fallbackCallback current worker with
          | none => exact sat_record rfl started fun _ _ _ => sat_finish _
          | some capability =>
            exact sat_record rfl started fun _ v taken =>
              sat_resumeFallback (Nat.succ_le_succ taken) capability

theorem sat_chooseAttempt {current : WakeupIntent} (own : current.intentId = intentId)
    (open_state : current.state ≠ .delivered) :
    (discipline intentId).Sat worker (chooseAttempt intentId worker current) w := by
  refine sat_observe fun t moved admitted attempts listed => ?_
  have length : attempts.length = count intentId t := by
    obtain ⟨_, _, listed⟩ := bind_ok.mp listed
    cases listed
    rfl
  dsimp only
  split
  · next used_up =>
    cases callback : fallbackCallback current worker with
    | none => exact sat_giveUp
    | some capability =>
      have opened : ¬ Delivered intentId t := fun delivered =>
        admitted delivered (.inl ⟨current, capability, rfl, callback, by omega⟩)
      exact sat_deliverFallback own open_state (Known.started (by unfold Known; omega) opened) _
  · exact sat_attemptLoop _ (by unfold Known; omega)

theorem sat_deliverWithRetry : (discipline intentId).Sat worker (deliverWithRetry intentId worker) w := by
  refine Discipline.Sat.lift (fun _ _ => trivial) _ fun _ _ => ?_
  refine sat_observe fun t _ _ current read => ?_
  obtain ⟨_, own⟩ := getIntent_ok read
  split
  · exact sat_effects (effects_deliveryResult current)
  · next not_terminal =>
    refine sat_chooseAttempt own fun delivered => ?_
    rw [delivered] at not_terminal
    exact not_terminal rfl

/-! ## Runs -/

/-- Workers start and take steps, and retries of the intent are prepared. -/
def step (intentId : String) : Pool World Raised WakeupDeliveryResult Worker →
    Action Worker String → Pool World Raised WakeupDeliveryResult Worker :=
  Pool.step (deliverWithRetry intentId)
    fun w retryAt => { w with outbox := (w.outbox.prepareRetry intentId retryAt).2 }

/-- No worker turns to the fallback of an intent that is DELIVERED by then. -/
def FallbackChecked (intentId : String) (P : Pool World Raised WakeupDeliveryResult Worker) :
    Action Worker String → Prop
  | .advance i => ∀ worker p, P.calls[i]? = some (worker, p) → Delivered intentId P.shared →
      ¬ TurnsToFallback intentId worker p P.shared
  | _ => True

/-- Once the intent is DELIVERED the outbox stays as it is, and the ports only see
attempts that had begun before, in every run in which no worker turns to the
fallback of a delivered intent. -/
theorem delivered_stays (intentId : String) (start : World) (actions : List (Action Worker String))
    (checked : Runs.Along (step intentId) (FallbackChecked intentId) ⟨start, []⟩ actions) :
    ∀ before after, actions = before ++ after →
      let s := (Runs.run (step intentId) ⟨start, []⟩ before).shared
      let t := (Runs.run (step intentId) ⟨start, []⟩ actions).shared
      Delivered intentId s → t.outbox = s.outbox ∧ Delivered intentId t ∧
        ∃ news, t.invocations = s.invocations ++ news ∧ ∀ call ∈ news, Begun intentId s call := by
  rintro before after rfl
  intro s t delivered
  have admits : Runs.Along (step intentId) ((discipline intentId).Admits (deliverWithRetry intentId)
      fun w retryAt => { w with outbox := (w.outbox.prepareRetry intentId retryAt).2 })
      ⟨start, []⟩ (before ++ after) := by
    refine checked.mono fun P a ok => ?_
    cases a with
    | start worker => exact fun _ => sat_deliverWithRetry
    | advance i => exact fun call found => ok call.1 call.2 found
    | environment retryAt => exact fun _ => ⟨trivial, settles_retry P.shared retryAt⟩
  obtain ⟨early, late⟩ := (Runs.along_append _ _ _ _ _).mp admits
  have empty : (discipline intentId).Keeps ⟨start, []⟩ := ⟨trivial, fun _ member => nomatch member⟩
  have reached := (Discipline.sound empty early).1
  have moved : Settles intentId s t := by
    have later := (Discipline.sound reached late).2
    rw [← Runs.run_append] at later
    exact later
  obtain ⟨news, called, held⟩ := moved.final
  obtain ⟨same, begun⟩ := held delivered
  exact ⟨same, (delivered_congr same).mpr delivered, news, called, begun⟩

/-! ## Two workers -/

omit [RetryClock] in
@[reducible] def sameTime : RetryClock where
  retryTimestamp attemptedAt _ := attemptedAt

def pendingIntent : WakeupIntent where
  intentId := "intent"
  logicalKey := "key"
  runId := "run"
  nodeId := "node"
  mailboxRef := "mailbox"
  mailboxSeq := 0
  eventId := "mailbox:event-0"
  eventDigest := "event"
  envelopeDigest := "envelope"
  messageId := "message"
  idempotencyKey := "idempotency"
  recipient := "executor"
  state := .pending
  attemptCount := 0
  nextAttemptAt := none
  fallback := some "sms"
  claimTtlSeconds := none
  createdAt := "2026-01-02T00:00:00+00:00"
  updatedAt := "2026-01-02T00:00:00+00:00"

def pendingOutbox : WakeupOutbox where
  intents intentId := if intentId = "intent" then some pendingIntent else none
  keyed intentId intent found := by
    split at found
    · next same =>
      rw [← Option.some.inj found, same]
      rfl
    · cases found
  contiguous _ := rfl

/-- The first port call is accepted, the later ones are rejected. -/
def pendingWorld : World where
  outbox := pendingOutbox
  clock _ := .ok "2026-01-02T00:00:00+00:00"
  ports k := if k = 0 then .accepted else .rejected

def oneAttempt (approved : List String) (named : ∀ capability ∈ approved, strip capability ≠ "") :
    WakeupRetryPolicy :=
  ⟨1, [], approved, by decide, by decide, named⟩

def plainWorker : Worker := ⟨oneAttempt [] nofun, []⟩

def smsWorker : Worker := ⟨oneAttempt ["sms"] (by decide), ["sms"]⟩

omit [RetryClock] in
/-- A worker lists the attempts after another has delivered the intent it had found
PENDING, finds its policy used up and lets the fallback block the intent. -/
theorem fallback_blocks_delivered :
    let first : List (Action Worker String) := [.start plainWorker, .start smsWorker, .advance 1,
      .advance 0, .advance 0, .advance 0, .advance 0, .advance 0, .advance 0]
    let later := [.advance 1, .advance 1, .advance 1, .advance 1]
    let s := (Runs.run (@step sameTime "intent") ⟨pendingWorld, []⟩ first).shared
    let t := (Runs.run (@step sameTime "intent") ⟨pendingWorld, []⟩ (first ++ later)).shared
    Delivered "intent" s ∧ (t.outbox.intents "intent").map (·.state) = some .blocked ∧
      count "intent" s = 1 ∧ count "intent" t = 2 ∧
      s.invocations.length = 1 ∧ t.invocations.length = 2 := by
  decide

omit [RetryClock] in
/-- A delivered intent is not retried, and a worker that starts then finds it so. -/
theorem delivered_stays_prepared :
    let first : List (Action Worker String) := [.start plainWorker,
      .advance 0, .advance 0, .advance 0, .advance 0, .advance 0, .advance 0]
    let later := [.start smsWorker, .environment "2026-01-02T01:00:00+00:00"]
    let s := (Runs.run (@step sameTime "intent") ⟨pendingWorld, []⟩ first).shared
    let t := (Runs.run (@step sameTime "intent") ⟨pendingWorld, []⟩ (first ++ later)).shared
    Delivered "intent" s ∧ t.outbox = s.outbox := by
  intro first later s t
  have delivered : Delivered "intent" s := by decide
  have checked : Runs.Along (@step sameTime "intent") (@FallbackChecked sameTime "intent")
      ⟨pendingWorld, []⟩ (first ++ later) :=
    ⟨trivial, fun _ _ _ delivered => absurd delivered (by decide),
      fun _ _ _ delivered => absurd delivered (by decide),
      fun _ _ _ delivered => absurd delivered (by decide),
      fun _ _ _ delivered => absurd delivered (by decide),
      fun _ _ _ delivered => absurd delivered (by decide),
      fun _ _ _ delivered => absurd delivered (by decide), trivial, trivial, trivial⟩
  exact ⟨delivered, (@delivered_stays sameTime "intent" pendingWorld _ checked first later rfl
    delivered).1⟩

end DwSuperApps.Guarantees.WakeupFinality
