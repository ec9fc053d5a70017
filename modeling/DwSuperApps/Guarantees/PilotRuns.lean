import DwSuperApps.Guarantees.ReplyMonitoring
import DwSuperApps.Lib.Runs
import DwSuperApps.Source.MvpPilot

/-!
# Runs of the pilot

Every report an observation carries is written to the active card, whatever subtask it is
about and whatever the verdict on it is. The root is created at most once and never left
(`Rooted`); a card is done for a good reason (`Confirmed`) in every run whose reports of
`DONE` are about the active subtask and are not intercepted (`pilot_runs`).
-/
namespace DwSuperApps.Guarantees.PilotRuns

open DwSuperApps.Lib DwSuperApps.Lib.Checked DwSuperApps.Lib.Stateful DwSuperApps.Lib.Runs
open DwSuperApps.Source DwSuperApps.Source.MvpPilot
open DwSuperApps.Source.Monitoring (Raised ReportStatus ContractedSubtask ExecutorReport LoopObservation
  LoopOutcome Reader Segment Call ThreadReply classifyReport)

/-! ## What holds in every state -/

/-- The call created a root. -/
def isCreated : HostCall → Bool
  | .createRoot _ (.ok _) => true
  | _ => false

/-- One root at most is created, and the root created and every root updated is the bound one. -/
structure Rooted (s : Pilot) : Prop where
  once : (s.calls.filter isCreated).length ≤ 1
  bound : ∀ card ts, .createRoot card (.ok ts) ∈ s.calls → s.rootTs = some ts
  same : ∀ card ts, .updateRoot ts card ∈ s.calls → s.rootTs = some ts

/-- The observation is a report for a subtask that is done, and not an interruption. -/
def Confirms (o : LoopObservation) (subtaskId : String) : Prop :=
  o.verdict.verdict ≠ .intercept ∧ o.report.subtaskId = subtaskId ∧ o.report.status = .done

/-- A card that is done was confirmed. -/
def Confirmed (s : Pilot) : Prop :=
  ∀ card ∈ s.card, ∀ c ∈ card.plan.cards, c.status = .done → ∃ o ∈ s.observed, Confirms o c.subtaskId

section
variable (host : Host) (config : MvpPilotConfig)

/-! ## The root -/

/-- A call that neither creates nor updates a root. -/
theorem Rooted.listed {s : Pilot} (rooted : Rooted s) {call : HostCall} (quiet : isCreated call = false)
    (updates : ∀ ts card, call = .updateRoot ts card → s.rootTs = some ts) :
    Rooted { s with calls := s.calls ++ [call] } where
  once := by
    rw [List.filter_append, List.filter_singleton, quiet]
    simpa using rooted.once
  bound := by
    intro card ts member
    rcases List.mem_append.mp member with before | now
    · exact rooted.bound card ts before
    · rw [← List.mem_singleton.mp now] at quiet
      cases quiet
  same := by
    intro card ts member
    rcases List.mem_append.mp member with before | now
    · exact rooted.same card ts before
    · exact updates ts card (List.mem_singleton.mp now).symm

/-- Without a root none was created and none updated. -/
theorem Rooted.none_created {s : Pilot} (rooted : Rooted s) (unbound : s.rootTs = none) :
    s.calls.filter isCreated = [] := by
  refine List.filter_eq_nil_iff.mpr fun call member created => ?_
  cases call with
  | createRoot card answer =>
    cases answer with
    | ok ts =>
      have held := rooted.bound card ts member
      rw [unbound] at held
      cases held
    | error e => cases created
  | updateRoot ts card => cases created
  | dispatchCommand ts text executor => cases created
  | record kind => cases created

theorem Rooted.none_updated {s : Pilot} (rooted : Rooted s) (unbound : s.rootTs = none) (ts : String)
    (card : RootCard) : .updateRoot ts card ∉ s.calls := by
  intro member
  have held := rooted.same card ts member
  rw [unbound] at held
  cases held

/-- A created root that is bound. -/
theorem Rooted.created {s : Pilot} (rooted : Rooted s) (unbound : s.rootTs = none) (card : RootCard)
    (ts : String) : Rooted { s with calls := s.calls ++ [.createRoot card (.ok ts)], rootTs := some ts } where
  once := by
    rw [List.filter_append, rooted.none_created unbound]
    exact Nat.le_refl 1
  bound := by
    intro other root member
    rcases List.mem_append.mp member with before | now
    · have held := rooted.bound other root before
      rw [unbound] at held
      cases held
    · cases List.mem_singleton.mp now
      rfl
  same := by
    intro other root member
    rcases List.mem_append.mp member with before | now
    · exact absurd before (rooted.none_updated unbound root other)
    · cases List.mem_singleton.mp now

theorem currentCard_keeps {I : Pilot → Prop}
    (built : ∀ s card, I s → s.card = none → buildInitialCard config = .ok card →
      I { s with card := some card }) :
    Keeps I (currentCard config) (fun card s => I s ∧ s.card = some card) I := by
  unfold currentCard
  refine keeps_bind (q := fun read s => read = s ∧ I s) (keeps_get fun s holds => ⟨rfl, holds⟩) ?_
  intro read
  cases held : read.card with
  | some card => exact keeps_pure fun s holds => ⟨holds.2, holds.1 ▸ held⟩
  | none =>
    refine keeps_bind (q := fun card s => I s ∧ s.card = none ∧ buildInitialCard config = .ok card)
      (keeps_attempt (fun card s made holds => ⟨holds.2, holds.1 ▸ held, made⟩) fun _ s _ holds => holds.2) ?_
    intro card
    refine keeps_bind (q := fun _ s => I s ∧ s.card = some card) (keeps_modify fun s holds => ?_)
      fun _ => keeps_pure fun s holds => holds
    exact ⟨built s card holds.1 holds.2.1 holds.2.2, rfl⟩

theorem record_keeps {I : Pilot → Prop} (kind : String)
    (listed : ∀ s, I s → I { s with calls := s.calls ++ [.record kind] }) :
    Keeps I (recordAuditEvent host config kind) (fun _ => I) I := by
  unfold recordAuditEvent
  split
  · refine keeps_bind (q := fun _ => I) (keeps_get fun s holds => holds) fun read => ?_
    refine keeps_bind (q := fun _ => I) (keeps_modify listed) fun _ => ?_
    exact keeps_attempt (fun _ s _ holds => holds) fun _ s _ holds => holds
  · exact keeps_pure fun s holds => holds

/-- A root given by the configuration. -/
theorem Rooted.given {s : Pilot} (rooted : Rooted s) (unbound : s.rootTs = none) (rootTs : String) :
    Rooted { s with rootTs := some rootTs } where
  once := rooted.once
  bound := by
    intro card ts member
    have held := rooted.bound card ts member
    rw [unbound] at held
    cases held
  same := fun card ts member => absurd member (rooted.none_updated unbound ts card)

theorem createRoot_rooted (card : RootCard) :
    Keeps (fun s => Rooted s ∧ s.rootTs = none) (createRoot host card)
      (fun ts s => Rooted { s with rootTs := some ts }) Rooted := by
  unfold createRoot
  refine keeps_bind (q := fun read s => read = s ∧ Rooted s ∧ s.rootTs = none)
    (keeps_get fun s holds => ⟨rfl, holds⟩) fun read => ?_
  refine keeps_bind (q := fun _ s => Rooted read ∧ read.rootTs = none ∧
      s = { read with calls := read.calls ++ [.createRoot card (host.createRoot read.calls)] })
    (keeps_modify ?_) fun _ => keeps_attempt ?_ ?_
  · rintro s ⟨rfl, rooted, unbound⟩
    exact ⟨rooted, unbound, rfl⟩
  · rintro ts s answered ⟨rooted, unbound, rfl⟩
    rw [answered]
    exact rooted.created unbound card ts
  · rintro e s failed ⟨rooted, unbound, rfl⟩
    rw [failed]
    exact rooted.listed rfl fun ts other same => by cases same

/-- The root is there and stays the same. -/
theorem ensureRoot_rooted :
    Keeps Rooted (ensureRoot host config) (fun ts s => Rooted s ∧ s.rootTs = some ts) Rooted := by
  have audit (kind : String) (ts : String) :
      Keeps (fun s => Rooted s ∧ s.rootTs = some ts) (recordAuditEvent host config kind)
        (fun _ s => Rooted s ∧ s.rootTs = some ts) Rooted :=
    (record_keeps host config (I := fun s => Rooted s ∧ s.rootTs = some ts) kind fun s holds =>
      ⟨holds.1.listed rfl (fun ts card same => by cases same), holds.2⟩).weaken
      (fun s holds => holds) (fun _ s holds => holds) fun s holds => holds.1
  unfold ensureRoot
  refine keeps_bind (q := fun read s => read = s ∧ Rooted s) (keeps_get fun s holds => ⟨rfl, holds⟩)
    fun read => ?_
  cases bound : read.rootTs with
  | some rootTs =>
    refine keeps_bind (q := fun _ s => Rooted s ∧ s.rootTs = some rootTs)
      ((audit "ROOT_UPDATE" rootTs).weaken ?_ (fun _ s holds => holds) fun s holds => holds)
      fun _ => keeps_pure fun s holds => holds
    rintro s ⟨rfl, rooted⟩
    exact ⟨rooted, bound⟩
  | none =>
    cases config.rootTs with
    | some rootTs =>
      refine keeps_bind (q := fun _ s => Rooted s ∧ s.rootTs = some rootTs) (keeps_modify ?_)
        fun _ => keeps_pure fun s holds => holds
      rintro s ⟨rfl, rooted⟩
      exact ⟨rooted.given bound rootTs, rfl⟩
    | none =>
      have card := currentCard_keeps config (I := fun s => Rooted s ∧ s.rootTs = none)
        fun s card holds _ _ => ⟨⟨holds.1.once, holds.1.bound, holds.1.same⟩, holds.2⟩
      refine keeps_bind (card.weaken ?_ (fun _ s holds => holds.1) fun s holds => holds.1) fun card => ?_
      · rintro s ⟨rfl, rooted⟩
        exact ⟨rooted, bound⟩
      · refine keeps_bind (createRoot_rooted host card) fun rootTs => ?_
        refine keeps_bind (q := fun _ s => Rooted s ∧ s.rootTs = some rootTs)
          (keeps_modify fun s holds => ⟨holds, rfl⟩) fun _ => ?_
        exact keeps_bind (audit "ROOT_CREATE" rootTs) fun _ => keeps_pure fun s holds => holds

theorem dispatchCurrent_rooted :
    Keeps Rooted (dispatchCurrent host config) (fun _ => Rooted) Rooted := by
  unfold dispatchCurrent dispatchCommand
  refine keeps_bind (q := fun _ => Rooted)
    (keeps_attempt (fun _ s _ holds => holds) fun _ s _ holds => holds) fun subtask => ?_
  refine keeps_bind (ensureRoot_rooted host config) fun rootTs => ?_
  refine keeps_bind (q := fun _ => Rooted) (keeps_get fun s holds => holds.1) fun read => ?_
  refine keeps_bind (q := fun _ => Rooted)
    (keeps_modify fun s holds => holds.listed rfl fun ts card same => by cases same) fun _ => ?_
  exact keeps_attempt (fun _ s _ holds => holds) fun _ s _ holds => holds

theorem applyObservation_rooted (o : LoopObservation) :
    Keeps Rooted (applyObservation host config o) (fun _ => Rooted) Rooted := by
  unfold applyObservation updateRoot
  refine keeps_bind (q := fun _ => Rooted)
    (keeps_modify fun s holds => ⟨holds.once, holds.bound, holds.same⟩) fun _ => ?_
  refine keeps_bind (currentCard_keeps config
    fun s card holds _ _ => ⟨holds.once, holds.bound, holds.same⟩) fun card => ?_
  refine keeps_bind (q := fun _ => Rooted)
    (keeps_attempt (fun _ s _ holds => holds.1) fun _ s _ holds => holds.1) fun updated => ?_
  refine keeps_bind (q := fun _ => Rooted)
    (keeps_modify fun s holds => ⟨holds.once, holds.bound, holds.same⟩) fun _ => ?_
  refine keeps_bind (ensureRoot_rooted host config) fun rootTs => ?_
  refine keeps_bind (q := fun _ s => Rooted s ∧ s.rootTs = some rootTs)
    (keeps_get fun s holds => holds) fun read => ?_
  refine keeps_bind (q := fun _ => Rooted) (keeps_modify fun s holds =>
    holds.1.listed rfl fun ts card same => by cases same; exact holds.2) fun _ => ?_
  exact keeps_attempt (fun _ s _ holds => holds) fun _ s _ holds => holds

/-! ## The cards -/

omit host in
/-- No card is done in the beginning. -/
theorem initial_pending {card : RootCard} (built : buildInitialCard config = .ok card) :
    ∀ c ∈ card.plan.cards, c.status = .pending := by
  unfold buildInitialCard at built
  obtain ⟨plan, planned, built⟩ := bind_ok.mp built
  obtain ⟨active, -, built⟩ := bind_ok.mp built
  have cards : card.plan.cards = plan.cards := by
    unfold RootCard.checked at built
    obtain ⟨_, -, built⟩ := bind_ok.mp built
    obtain ⟨_, -, built⟩ := bind_ok.mp built
    obtain ⟨_, -, built⟩ := bind_ok.mp built
    obtain ⟨_, -, built⟩ := bind_ok.mp built
    cases built
    rfl
  have made : plan.cards = config.contracts.map TaskCard.fromContract := by
    unfold PlanBlock.fromContracts PlanBlock.make at planned
    split at planned
    · split at planned
      · cases planned
        rfl
      · cases planned
    · cases planned
  intro c member
  rw [cards, made] at member
  obtain ⟨contract, -, rfl⟩ := List.mem_map.mp member
  rfl

omit host in
/-- A report is written to the active card. -/
theorem observed_cards {card updated : RootCard} {report : ExecutorReport}
    (made : observedCard config card report = .ok updated) :
    ∃ active, activeSubtaskId config = .ok active ∧
      updated.plan.cards = card.plan.cards.map (remapped active report) := by
  unfold observedCard at made
  obtain ⟨active, selected, made⟩ := bind_ok.mp made
  obtain ⟨_, -, made⟩ := bind_ok.mp made
  obtain ⟨plan, planned, made⟩ := bind_ok.mp made
  refine ⟨active, selected, ?_⟩
  have cards : updated.plan = plan := by
    unfold RootCard.checked at made
    obtain ⟨_, -, made⟩ := bind_ok.mp made
    obtain ⟨_, -, made⟩ := bind_ok.mp made
    obtain ⟨_, -, made⟩ := bind_ok.mp made
    obtain ⟨_, -, made⟩ := bind_ok.mp made
    cases made
    rfl
  unfold PlanBlock.make at planned
  split at planned
  · split at planned
    · cases planned
      rw [cards]
    · cases planned
  · cases planned

/-- A report of `DONE` is about the active subtask and no interruption. -/
def Proper (o : LoopObservation) : Prop :=
  o.report.status = .done →
    o.verdict.verdict ≠ .intercept ∧ activeSubtaskId config = .ok o.report.subtaskId

/-- A proper observation confirms what it writes. -/
theorem Confirmed.observe {s : Pilot} {o : LoopObservation} {card updated : RootCard}
    (confirmed : Confirmed s) (observed : o ∈ s.observed) (held : s.card = some card)
    (proper : Proper config o) (made : observedCard config card o.report = .ok updated) :
    Confirmed { s with card := some updated } := by
  obtain ⟨active, selected, cards⟩ := observed_cards config made
  intro other here c member finished
  cases here
  rw [cards] at member
  obtain ⟨before, inside, rfl⟩ := List.mem_map.mp member
  unfold remapped at finished ⊢
  split at finished
  · next this =>
    rw [if_pos this]
    have reported : o.report.status = .done := by
      cases status : o.report.status <;> rw [status] at finished <;> first | rfl | cases finished
    obtain ⟨kept, about⟩ := proper reported
    rw [selected] at about
    exact ⟨o, observed, kept, this.symm ▸ (Except.ok.inj about).symm, reported⟩
  · next another =>
    rw [if_neg another]
    exact confirmed card held before inside finished

omit host in
theorem currentCard_confirmed {o : LoopObservation} :
    Keeps (fun s => Confirmed s ∧ o ∈ s.observed) (currentCard config)
      (fun card s => (Confirmed s ∧ o ∈ s.observed) ∧ s.card = some card)
      (fun s => Confirmed s ∧ o ∈ s.observed) := by
  refine currentCard_keeps config fun s card holds _ built => ⟨?_, holds.2⟩
  intro other here c member finished
  cases here
  rw [initial_pending config built c member] at finished
  cases finished

theorem ensureRoot_confirmed :
    Keeps Confirmed (ensureRoot host config) (fun _ => Confirmed) Confirmed := by
  have audit (kind : String) := record_keeps host config kind fun s (holds : Confirmed s) => holds
  unfold ensureRoot
  refine keeps_bind (q := fun _ => Confirmed) (keeps_get fun s holds => holds) fun read => ?_
  cases read.rootTs with
  | some rootTs => exact keeps_bind (audit "ROOT_UPDATE") fun _ => keeps_pure fun s holds => holds
  | none =>
    cases config.rootTs with
    | some rootTs =>
      refine keeps_bind (q := fun _ => Confirmed) (keeps_modify fun s holds => holds)
        fun _ => keeps_pure fun s holds => holds
    | none =>
      refine keeps_bind (currentCard_keeps config (I := Confirmed) ?_) fun card => ?_
      · intro s card _ _ built other here c member finished
        cases here
        rw [initial_pending config built c member] at finished
        cases finished
      · refine keeps_bind (q := fun _ => Confirmed) ?_ fun rootTs => ?_
        · unfold createRoot
          refine keeps_bind (q := fun _ => Confirmed) (keeps_get fun s holds => holds.1) fun before => ?_
          refine keeps_bind (q := fun _ => Confirmed) (keeps_modify fun s holds => holds) fun _ => ?_
          exact keeps_attempt (fun _ s _ holds => holds) fun _ s _ holds => holds
        · refine keeps_bind (q := fun _ => Confirmed) (keeps_modify fun s holds => holds) fun _ => ?_
          exact keeps_bind (audit "ROOT_CREATE") fun _ => keeps_pure fun s holds => holds

theorem dispatchCurrent_confirmed :
    Keeps Confirmed (dispatchCurrent host config) (fun _ => Confirmed) Confirmed := by
  unfold dispatchCurrent dispatchCommand
  refine keeps_bind (q := fun _ => Confirmed)
    (keeps_attempt (fun _ s _ holds => holds) fun _ s _ holds => holds) fun subtask => ?_
  refine keeps_bind (ensureRoot_confirmed host config) fun rootTs => ?_
  refine keeps_bind (q := fun _ => Confirmed) (keeps_get fun s holds => holds) fun read => ?_
  refine keeps_bind (q := fun _ => Confirmed) (keeps_modify fun s holds => holds) fun _ => ?_
  exact keeps_attempt (fun _ s _ holds => holds) fun _ s _ holds => holds

theorem applyObservation_confirmed {o : LoopObservation} (proper : Proper config o) :
    Keeps Confirmed (applyObservation host config o) (fun _ => Confirmed) Confirmed := by
  unfold applyObservation updateRoot
  refine keeps_bind (q := fun _ s => Confirmed s ∧ o ∈ s.observed) (keeps_modify ?_) fun _ => ?_
  · intro s confirmed
    refine ⟨?_, List.mem_append_right _ List.mem_cons_self⟩
    intro card here c member finished
    obtain ⟨other, seen, confirms⟩ := confirmed card here c member finished
    exact ⟨other, List.mem_append_left _ seen, confirms⟩
  refine keeps_bind ((currentCard_confirmed config).weaken (fun s holds => holds) (fun _ s holds => holds)
    fun s holds => holds.1) fun card => ?_
  refine keeps_bind (q := fun updated s => ((Confirmed s ∧ o ∈ s.observed) ∧ s.card = some card) ∧
      observedCard config card o.report = .ok updated)
    (keeps_attempt (fun _ s made holds => ⟨holds, made⟩) fun _ s _ holds => holds.1.1) fun updated => ?_
  refine keeps_bind (q := fun _ => Confirmed) (keeps_modify ?_) fun _ => ?_
  · rintro s ⟨⟨⟨confirmed, observed⟩, held⟩, made⟩
    exact confirmed.observe config observed held proper made
  refine keeps_bind (ensureRoot_confirmed host config) fun rootTs => ?_
  refine keeps_bind (q := fun _ => Confirmed) (keeps_get fun s holds => holds) fun read => ?_
  refine keeps_bind (q := fun _ => Confirmed) (keeps_modify fun s holds => holds) fun _ => ?_
  exact keeps_attempt (fun _ s _ holds => holds) fun _ s _ holds => holds

/-! ## The loop -/

omit host config

/-- What is handed over comes from a reply and carries the verdict on it. -/
def Read (contract : ContractedSubtask) (readReplies : Reader) (o : LoopObservation) : Prop :=
  o.verdict = classifyReport contract o.report ∧
    ∃ poll cursor, ∃ reply ∈ readReplies poll cursor, ExecutorReport.fromPayload reply.payload = .ok o.report

theorem observations_append (front back : List Call) :
    observations (front ++ back) = observations front ++ observations back :=
  List.filterMap_append

theorem newerOnly_subset {cursor : Option String} {replies due : List ThreadReply}
    (taken : Monitoring.newerOnly cursor replies = .ok due) : ∀ r ∈ due, r ∈ replies := by
  induction replies generalizing due with
  | nil =>
    cases taken
    exact fun r member => member
  | cons first rest ih =>
    obtain ⟨newer, -, taken⟩ := bind_ok.mp taken
    obtain ⟨others, later, taken⟩ := bind_ok.mp taken
    have kept := ih later
    cases newer with
    | true =>
      cases taken
      exact fun r member => (List.mem_cons.mp member).elim (fun same => same ▸ List.mem_cons_self)
        fun inside => List.mem_cons_of_mem first (kept r inside)
    | false =>
      cases taken
      exact fun r member => List.mem_cons_of_mem first (kept r member)

/-- A poll takes what the reader returned. -/
theorem newerReplies_subset {cursor : Option String} {replies due : List ThreadReply}
    (taken : Monitoring.newerReplies replies cursor = .ok due) : ∀ r ∈ due, r ∈ replies := by
  unfold Monitoring.newerReplies at taken
  obtain ⟨fresh, newer, taken⟩ := bind_ok.mp taken
  obtain ⟨keyed, paired, taken⟩ := bind_ok.mp taken
  cases taken
  intro r member
  have sorted := (ReplyMonitoring.uniqueReplies_sublist [] _).subset member
  obtain ⟨pair, inside, rfl⟩ := List.mem_map.mp sorted
  obtain ⟨reply, held, made⟩ := mapM_mem paired (Sorted.mem_sortedBy.mp inside)
  obtain ⟨key, -, made⟩ := bind_ok.mp made
  cases made
  exact newerOnly_subset newer reply held

section
variable {contract : ContractedSubtask} {readReplies : Reader}

theorem handleReplies_read {poll at_ : Nat} {cursor : Option String} {replies : List ThreadReply}
    (given : ∀ r ∈ replies, r ∈ readReplies at_ cursor) {s : Monitoring.Progress}
    (before : ∀ o ∈ observations s.calls, Read contract readReplies o) :
    ∀ o ∈ observations (Monitoring.handleReplies contract poll s replies).1.calls,
      Read contract readReplies o := by
  induction replies generalizing s with
  | nil => exact before
  | cons reply rest ih =>
    unfold Monitoring.handleReplies
    dsimp only
    cases parsed : ExecutorReport.fromPayload reply.payload with
    | error e => exact before
    | ok report =>
      dsimp only
      have classified : ∀ o ∈ observations (Monitoring.Progress.classify
          { s with cursor := some reply.ts } poll reply report (classifyReport contract report)).calls,
          Read contract readReplies o := by
        intro o member
        unfold Monitoring.Progress.classify at member
        rw [observations_append, List.mem_append] at member
        rcases member with earlier | now
        · exact before o earlier
        · have own : o = ⟨poll, reply.ts, classifyReport contract report, report⟩ := by
            change o ∈ observations (if _ then _ else _) at now
            split at now
            · exact List.mem_singleton.mp now
            · cases now
          subst own
          exact ⟨rfl, at_, cursor, reply, given reply List.mem_cons_self, parsed⟩
      split
      · exact classified
      · exact ih (fun r member => given r (List.mem_cons_of_mem reply member)) classified

theorem pollLoop_read {interval poll count : Nat} {s : Monitoring.Progress}
    (before : ∀ o ∈ observations s.calls, Read contract readReplies o) :
    ∀ o ∈ observations (Monitoring.pollLoop contract readReplies interval poll count s).1.calls,
      Read contract readReplies o := by
  induction count generalizing poll s with
  | zero => exact before
  | succ count ih =>
    have polled : ∀ o ∈ observations (Monitoring.onePoll contract readReplies interval poll s).1.calls,
        Read contract readReplies o := by
      have slept : ∀ o ∈ observations (s.calls ++ [.sleeper interval]), Read contract readReplies o := by
        intro o member
        rw [observations_append, List.mem_append] at member
        exact member.elim (before o) fun now => by cases now
      unfold Monitoring.onePoll
      dsimp only
      cases taken : Monitoring.newerReplies (readReplies poll s.cursor) s.cursor with
      | error e => exact slept
      | ok replies => exact handleReplies_read (newerReplies_subset taken) slept
    unfold Monitoring.pollLoop
    cases ended : Monitoring.onePoll contract readReplies interval poll s with
    | mk next finish =>
      rw [ended] at polled
      cases finish with
      | none => exact ih polled
      | some outcome => exact polled

theorem boundedLoop_read {cursor : Option String} {maxPolls interval : Nat} :
    ∀ o ∈ observations (Monitoring.boundedLoop contract readReplies cursor maxPolls interval).calls,
      Read contract readReplies o := by
  have polled : ∀ o ∈ observations
      (Monitoring.pollLoop contract readReplies interval 1 maxPolls { cursor := cursor }).1.calls,
      Read contract readReplies o := pollLoop_read fun o member => by cases member
  unfold Monitoring.boundedLoop
  split
  · exact fun o member => by cases member
  · split
    · next ended => rw [ended] at polled; exact polled
    · next ended => rw [ended] at polled; exact polled

theorem unboundedLoop_read {cursor : Option String} {interval polls : Nat} :
    ∀ o ∈ observations (Monitoring.unboundedLoop contract readReplies cursor interval polls).calls,
      Read contract readReplies o := by
  unfold Monitoring.unboundedLoop
  split
  · exact fun o member => by cases member
  · exact pollLoop_read fun o member => by cases member

end

/-! ## Whole runs -/

/-- A verdict other than an interruption is about the contracted subtask. -/
theorem classified_subtask {contract : ContractedSubtask} {report : ExecutorReport}
    (passed : (classifyReport contract report).verdict ≠ .intercept) :
    report.subtaskId = contract.subtaskId := by
  by_contra other
  unfold classifyReport at passed
  rw [if_pos other] at passed
  exact passed rfl

theorem selected_active {config : MvpPilotConfig} {contract : ContractedSubtask}
    (selected : selectedContract config = .ok contract) :
    activeSubtaskId config = .ok contract.subtaskId := by
  obtain ⟨wanted, active, found⟩ := bind_ok.mp selected
  split at found
  · next held =>
    cases found
    have same := List.find?_some held
    rw [active, of_decide_eq_true same]
  · cases found

/-- The observations a run hands to the card, and what it then returns. -/
theorem keeps_run {host : Host} {config : MvpPilotConfig} {I : Pilot → Prop} {readReplies : Reader}
    {maxPolls : Option Nat} {polls : Nat}
    (root : Keeps I (ensureRoot host config) (fun _ => I) I)
    (dispatch : Keeps I (dispatchCurrent host config) (fun _ => I) I)
    (apply_ : ∀ contract o, selectedContract config = .ok contract → Read contract readReplies o →
      Keeps I (applyObservation host config o) (fun _ => I) I) :
    Keeps I (MvpPilot.run host config readReplies maxPolls polls) (fun _ => I) I := by
  have same {α : Type} (y : Except Raised α) : Keeps I (attempt y : PilotM α) (fun _ => I) I :=
    keeps_attempt (fun _ s _ holds => holds) fun _ s _ holds => holds
  unfold MvpPilot.run
  refine keeps_bind (same _) fun _ => keeps_bind (same _) fun _ => keeps_bind root fun rootTs => ?_
  refine keeps_bind dispatch fun dispatchTs => keeps_bind (same _) fun dispatched =>
    keeps_bind (same _) fun rooted => ?_
  refine keeps_bind (q := fun contract s => I s ∧ selectedContract config = .ok contract)
    (keeps_attempt (fun _ s selected holds => ⟨holds, selected⟩) fun _ s _ holds => holds) fun contract => ?_
  by_cases selected : selectedContract config = .ok contract
  · refine (keeps_bind (keeps_runAll fun o member => apply_ contract o selected ?_)
      fun _ => ?_).weaken (fun s holds => holds.1) (fun _ s holds => holds) fun s holds => holds
    · cases maxPolls with
      | some n => exact boundedLoop_read o member
      | none => exact unboundedLoop_read o member
    split
    · exact keeps_pure fun s holds => holds
    · exact keeps_bind (same _) fun outcome => keeps_pure fun s holds => holds
  · exact fun s holds => absurd holds.2 selected

/-- A call whose reports of `DONE` are about the active subtask and are not intercepted. -/
def ProperCall (config : MvpPilotConfig) : Action → Prop
  | .applyObservation o => Proper config o
  | .run readReplies _ _ => ∀ contract, selectedContract config = .ok contract →
      ∀ poll cursor, ∀ reply ∈ readReplies poll cursor, ∀ report,
        ExecutorReport.fromPayload reply.payload = .ok report → report.status = .done →
          (classifyReport contract report).verdict ≠ .intercept
  | _ => True

theorem step_rooted (host : Host) (config : MvpPilotConfig) (s : Pilot) (a : Action) (rooted : Rooted s) :
    Rooted (step host config s a) := by
  have root := (ensureRoot_rooted host config).weaken (fun s holds => holds)
    (fun _ s holds => holds.1) fun s holds => holds
  cases a with
  | ensureRoot => exact left_of root rooted
  | dispatchCurrent => exact left_of (dispatchCurrent_rooted host config) rooted
  | applyObservation o => exact left_of (applyObservation_rooted host config o) rooted
  | run readReplies maxPolls polls =>
    exact left_of (keeps_run root (dispatchCurrent_rooted host config)
      fun _ o _ _ => applyObservation_rooted host config o) rooted

theorem step_confirmed (host : Host) (config : MvpPilotConfig) (s : Pilot) (a : Action)
    (proper : ProperCall config a) (confirmed : Confirmed s) : Confirmed (step host config s a) := by
  cases a with
  | ensureRoot => exact left_of (ensureRoot_confirmed host config) confirmed
  | dispatchCurrent => exact left_of (dispatchCurrent_confirmed host config) confirmed
  | applyObservation o => exact left_of (applyObservation_confirmed host config proper) confirmed
  | run readReplies maxPolls polls =>
    refine left_of (keeps_run (ensureRoot_confirmed host config) (dispatchCurrent_confirmed host config) ?_)
      confirmed
    rintro contract o selected ⟨verdict, poll, cursor, reply, given, parsed⟩
    refine applyObservation_confirmed host config fun finished => ?_
    have passed := proper contract selected poll cursor reply given o.report parsed finished
    exact ⟨verdict ▸ passed, classified_subtask passed ▸ selected_active selected⟩

/-- The root holds in every state of every run, and where every call is proper no card is done
without its report. -/
theorem pilot_runs (host : Host) (config : MvpPilotConfig) (actions : List Action) :
    Always (step host config) Rooted {} actions ∧
      (Along (step host config) (fun _ a => ProperCall config a) {} actions →
        Always (step host config) (fun s => Rooted s ∧ Confirmed s) {} actions) := by
  have rooted : Rooted {} := by
    constructor
    · exact Nat.zero_le 1
    · rintro card ts (_ | _)
    · rintro card ts (_ | _)
  have confirmed : Confirmed {} := by
    intro card held
    cases held
  constructor
  · have taken : Along (step host config) (fun _ _ => True) {} actions :=
      along_iff.mpr fun _ _ _ _ => trivial
    exact always_of_invariant (fun s a (holds : Rooted s) _ => step_rooted host config s a holds)
      (fun _ holds => holds) rooted taken
  · intro admitted
    refine always_of_invariant (fun s a (holds : Rooted s ∧ Confirmed s) proper => ?_)
      (fun _ holds => holds) ⟨rooted, confirmed⟩ admitted
    exact ⟨step_rooted host config s a holds.1, step_confirmed host config s a proper holds.2⟩

end

section Samples

theorem continue_contracted : Monitoring.Literal.continue ∈ Monitoring.contractedAfterValues := by decide

/-- A contract of a subtask. -/
def contractFor (subtaskId : String) (named : strip subtaskId ≠ "") : ContractedSubtask where
  subtaskId := subtaskId
  objective := "o"
  allowedWork := ["w"]
  expectedOutput := ["x"]
  reportRequirement := ["r"]
  afterReport := .continue
  texts := ⟨named, by decide⟩
  items := by decide
  planned := continue_contracted

theorem a_named : strip "a" ≠ "" := by decide
theorem b_named : strip "b" ≠ "" := by decide
theorem c_named : strip "c" ≠ "" := by decide

def threeSubtasks : MvpPilotConfig where
  runId := "r"
  channel := "c"
  humanOwner := "h"
  controller := "c"
  executor := "e"
  contracts := [contractFor "a" a_named, contractFor "b" b_named, contractFor "c" c_named]
  executorUserId := some "u"

def quietHost : Host where
  createRoot _ := .ok "1.0"
  updateRoot _ := .ok ()
  dispatchCommand _ := .ok "2.0"
  record _ := .ok ()

/-- A reader with one report of `DONE` for a subtask. -/
def doneReader (subtaskId : String) : Reader := fun _ _ => [{
  ts := "3.0"
  payload := [("subtask_id", .str subtaskId), ("status", .str "DONE"), ("completed", .arr [.str "a"]),
    ("evidence", .arr [.str "e"]), ("next_action", .str "n"), ("after", .str "CONTINUE")] }]

theorem pilot_runs_sample :
    Always (step quietHost threeSubtasks) (fun s => Rooted s ∧ Confirmed s) {}
      [.ensureRoot, .run (doneReader "a") (some 1) 0] := by
  refine (pilot_runs quietHost threeSubtasks [.ensureRoot, .run (doneReader "a") (some 1) 0]).2 ?_
  refine ⟨trivial, fun contract selected poll cursor reply given report parsed finished => ?_, trivial⟩
  cases List.mem_singleton.mp given
  cases selected
  cases parsed
  decide

/-- An intercepted report about another subtask makes the active card done. -/
theorem intercepted_done :
    ¬ ∀ (host : Host) (config : MvpPilotConfig) (actions : List Action),
      Always (step host config) (fun s => Rooted s ∧ Confirmed s) {} actions := by
  intro all
  obtain ⟨-, -, confirmed⟩ := all quietHost threeSubtasks [.run (doneReader "b") (some 1) 0]
  have shown : (fun s : Pilot => (s.card.map fun card => card.plan.cards.map fun c => (c.subtaskId, c.status),
      s.observed.map fun o => o.report.subtaskId))
        (step quietHost threeSubtasks {} (.run (doneReader "b") (some 1) 0)) =
      (some [("a", .done), ("b", .pending), ("c", .pending)], ["b"]) := by
    decide
  obtain ⟨cards, reports⟩ := Prod.mk.inj shown
  obtain ⟨card, held, listed⟩ := Option.map_eq_some_iff.mp cards
  have first : ("a", TaskCardStatus.done) ∈ card.plan.cards.map fun c => (c.subtaskId, c.status) := by
    rw [listed]
    exact List.mem_cons_self
  obtain ⟨c, member, same⟩ := List.mem_map.mp first
  obtain ⟨named, finished⟩ := Prod.mk.inj same
  obtain ⟨o, observed, -, about, -⟩ := confirmed card held c member finished
  have listed_b : o.report.subtaskId ∈ ["b"] := by
    rw [← reports]
    exact List.mem_map_of_mem observed
  rw [about, named] at listed_b
  exact absurd listed_b (by decide)

end Samples

end DwSuperApps.Guarantees.PilotRuns
