import DwSuperApps.Guarantees.MailboxChain

/-!
# Delivery through durable cursors

Writers, readers and one consumer share a repository. The durable cursor of an
actor only moves forward and always names one of its events. A consumer scans
after its durable cursor, observes what it received and acknowledges the cursor
it reached; between the scan and the acknowledgement anything else may happen.
It receives the events of its actor in log order, each once and none skipped.
-/
namespace DwSuperApps.Guarantees.MailboxDelivery

open DwSuperApps.Lib DwSuperApps.Lib.Checked
open DwSuperApps.Source.Envelope DwSuperApps.Source.Mailbox
open DwSuperApps.Source.Mailbox.InMemoryMailboxRepository
open DwSuperApps.Guarantees.MailboxLog DwSuperApps.Guarantees.MailboxChain

variable [Sha256]

/-! ## Positions -/

omit [Sha256] in
/-- The second cursor is not behind the first. -/
structure Forward (a b : MailboxActorCursor) : Prop where
  event : a.lastEventSeq ≤ b.lastEventSeq
  logical : a.lastLogicalSeq ≤ b.lastLogicalSeq

omit [Sha256] in
theorem Forward.refl (c : MailboxActorCursor) : Forward c c := ⟨le_refl _, le_refl _⟩

omit [Sha256] in
theorem Forward.trans {a b c : MailboxActorCursor} (first : Forward a b) (second : Forward b c) :
    Forward a c :=
  ⟨first.event.trans second.event, first.logical.trans second.logical⟩

omit [Sha256] in
theorem neg_one_le_event (c : MailboxActorCursor) : -1 ≤ c.lastEventSeq := by
  unfold MailboxActorCursor.lastEventSeq
  cases c.position with
  | none => exact le_refl _
  | some p => simp

omit [Sha256] in
theorem neg_one_le_logical (c : MailboxActorCursor) : -1 ≤ c.lastLogicalSeq := by
  unfold MailboxActorCursor.lastLogicalSeq
  cases c.position with
  | none => exact le_refl _
  | some p => simp

section Bound
variable {repo : InMemoryMailboxRepository} (wf : WellFormed repo) {b : CursorBinding}
  {p q : CursorPosition}
include wf

/-- Two positions of one actor at one place are the same. -/
theorem bound_eq (first : Bound repo b p) (second : Bound repo b q)
    (same : p.eventSeq = q.eventSeq) : p = q := by
  obtain ⟨d, member, rfl, -⟩ := first
  obtain ⟨e, member', rfl, -⟩ := second
  rw [wf.eq_of_seq member member' same]

theorem bound_logical_lt (first : Bound repo b p) (second : Bound repo b q)
    (before : p.eventSeq < q.eventSeq) : p.logicalSeq < q.logicalSeq := by
  obtain ⟨d, member, rfl, -, -, actor⟩ := first
  obtain ⟨e, member', rfl, -, -, actor'⟩ := second
  exact wf.logical_lt member member' before (actor.trans actor'.symm)

/-- A later position is also later in the producer's sequence. -/
theorem forward_of_event {c d : MailboxActorCursor}
    (first : ∀ p, c.position = some p → Bound repo b p)
    (second : ∀ p, d.position = some p → Bound repo b p)
    (before : c.lastEventSeq < d.lastEventSeq) : c.lastLogicalSeq < d.lastLogicalSeq := by
  unfold MailboxActorCursor.lastEventSeq at before
  unfold MailboxActorCursor.lastLogicalSeq
  cases there : d.position with
  | none =>
    have low := neg_one_le_event c
    rw [there] at before
    unfold MailboxActorCursor.lastEventSeq at low
    simp only [Option.elim_none] at before
    omega
  | some q =>
    cases here : c.position with
    | none => simp only [Option.elim_none, Option.elim_some]; omega
    | some p =>
      rw [here, there] at before
      simp only [Option.elim_some, Int.ofNat_lt] at before ⊢
      exact bound_logical_lt wf (first p here) (second q there) before

end Bound

/-! ## The durable cursor -/

theorem durable_write (repo : InMemoryMailboxRepository) (ref : String) (expectedSeq : Int)
    (envelope : V2MailboxEnvelope) (expected : Option (List (String × Json))) :
    (repo.write ref expectedSeq envelope expected).2.actorCursors = repo.actorCursors := by
  unfold InMemoryMailboxRepository.write
  split
  · rfl
  · rfl
  · rfl

/-- Every call leaves each durable cursor or moves it forward. -/
theorem forward_perform {repo : InMemoryMailboxRepository} (sound : Sound repo) (op : Operation)
    (b : CursorBinding) : Forward (repo.durableCursor b) ((perform repo op).durableCursor b) := by
  cases op with
  | write ref expectedSeq envelope expected =>
    unfold InMemoryMailboxRepository.durableCursor perform
    rw [durable_write]
    exact Forward.refl _
  | acknowledgeCursor cursor =>
    change Forward _ ((repo.acknowledgeCursor cursor).2.durableCursor b)
    rcases acknowledge_cases repo cursor with
      ⟨e, outcome⟩ | ⟨_, outcome⟩ | ⟨event, member, place, run, node, actor, later, outcome⟩
    · rw [outcome]
      exact Forward.refl _
    · rw [outcome]
      exact Forward.refl _
    · rw [outcome]
      by_cases here : b = cursor.toCursorBinding
      · subst here
        have moved : InMemoryMailboxRepository.durableCursor { repo with
            actorCursors := Function.update repo.actorCursors cursor.toCursorBinding
              cursor.position } cursor.toCursorBinding = cursor := by
          simp [InMemoryMailboxRepository.durableCursor]
        rw [moved]
        refine ⟨le_of_lt later, le_of_lt ?_⟩
        refine forward_of_event sound.wellFormed (sound.wellFormed.bound cursor.toCursorBinding)
          (fun p held => ?_) later
        rw [place] at held
        exact ⟨event, member, Option.some.inj held, run, node, actor⟩
      · simp only [InMemoryMailboxRepository.durableCursor, Function.update_of_ne here]
        exact Forward.refl _
  | read _ => exact Forward.refl _
  | exactReadback _ => exact Forward.refl _
  | readCursor _ _ _ _ => exact Forward.refl _
  | scanAfterCursor _ => exact Forward.refl _

/-! ## The consumer -/

omit [Sha256] in
/-- What the consumer received, and the cursor it has yet to acknowledge. -/
structure Consumer where
  received : List MailboxEvent := []
  pending : Option MailboxActorCursor := none
  raised : List Raised := []

omit [Sha256] in
structure System where
  repo : InMemoryMailboxRepository := {}
  consumer : Consumer := {}

omit [Sha256] in
inductive Move where
  | call (op : Operation)
  | turn

/-- The events after the durable cursor, and the cursor that observed them. -/
def receive (repo : InMemoryMailboxRepository) (b : CursorBinding) :
    Except Raised (List MailboxEvent × MailboxActorCursor) := do
  let cursor ← repo.readCursor b.mailboxRef b.runId b.nodeId b.actorNamespace
  let events ← repo.scanAfterCursor cursor
  let next ← events.foldlM MailboxActorCursor.observe cursor
  return (events, next)

/-- The consumer acknowledges what it scanned before, or scans. -/
def turn (b : CursorBinding) (s : System) : System :=
  match s.consumer.pending with
  | some cursor =>
    match s.repo.acknowledgeCursor cursor with
    | (.ok _, repo) => ⟨repo, { s.consumer with pending := none }⟩
    | (.error e, repo) => ⟨repo, { s.consumer with raised := s.consumer.raised ++ [e] }⟩
  | none =>
    match receive s.repo b with
    | .ok (events, cursor) => { s with consumer := { s.consumer with
        received := s.consumer.received ++ events, pending := some cursor } }
    | .error e => { s with consumer := { s.consumer with raised := s.consumer.raised ++ [e] } }

def step (b : CursorBinding) (s : System) : Move → System
  | .call op => { s with repo := perform s.repo op }
  | .turn => turn b s

omit [Sha256] in
/-- The events of an actor, in log order. -/
def boundEvents (b : CursorBinding) (repo : InMemoryMailboxRepository) : List MailboxEvent :=
  (repo.mailboxes b.mailboxRef).filter fun e =>
    e.producerNamespace = b.actorNamespace ∧ e.envelope.runId = b.runId ∧
      e.envelope.nodeId = b.nodeId

omit [Sha256] in
theorem mem_boundEvents {b : CursorBinding} {repo : InMemoryMailboxRepository} {e : MailboxEvent} :
    e ∈ boundEvents b repo ↔ e ∈ repo.mailboxes b.mailboxRef ∧
      e.producerNamespace = b.actorNamespace ∧ e.envelope.runId = b.runId ∧
      e.envelope.nodeId = b.nodeId := by
  unfold boundEvents
  rw [List.mem_filter, decide_eq_true_iff]

omit [Sha256] in
/-- The events of an actor up to a place of the log. -/
def upTo (b : CursorBinding) (repo : InMemoryMailboxRepository) (n : Int) : List MailboxEvent :=
  (boundEvents b repo).filter fun e => (e.eventSeq : Int) ≤ n

omit [Sha256] in
def beyond (b : CursorBinding) (repo : InMemoryMailboxRepository) (n : Int) : List MailboxEvent :=
  (boundEvents b repo).filter fun e => n < (e.eventSeq : Int)

theorem log_ordered {repo : InMemoryMailboxRepository} (wf : WellFormed repo) (ref : String) :
    (repo.mailboxes ref).Pairwise fun d e => d.eventSeq < e.eventSeq := by
  refine List.pairwise_iff_getElem.mpr fun i j hi hj before => ?_
  rw [(wf.recorded ref i _ (List.getElem?_eq_getElem hi)).seq,
    (wf.recorded ref j _ (List.getElem?_eq_getElem hj)).seq]
  exact before

theorem bound_ordered {repo : InMemoryMailboxRepository} (wf : WellFormed repo) (b : CursorBinding) :
    (boundEvents b repo).Pairwise fun d e => d.eventSeq < e.eventSeq :=
  (log_ordered wf b.mailboxRef).filter _

omit [Sha256] in
/-- An ordered list is cut by a bound into a beginning and the rest. -/
theorem filter_le_append_lt {events : List MailboxEvent}
    (ordered : events.Pairwise fun d e => d.eventSeq < e.eventSeq) (n : Int) :
    (events.filter fun e => (e.eventSeq : Int) ≤ n) ++
      (events.filter fun e => n < (e.eventSeq : Int)) = events := by
  induction events with
  | nil => rfl
  | cons e rest ih =>
    obtain ⟨first, later⟩ := List.pairwise_cons.mp ordered
    by_cases inside : (e.eventSeq : Int) ≤ n
    · have outside : ¬ n < (e.eventSeq : Int) := not_lt.mpr inside
      simp [inside, outside, ih later]
    · have past : n < (e.eventSeq : Int) := not_le.mp inside
      have none_left : (rest.filter fun e => (e.eventSeq : Int) ≤ n) = [] := by
        refine List.filter_eq_nil_iff.mpr fun other member => ?_
        have := first other member
        simp only [decide_eq_true_eq]
        omega
      have all_right : (rest.filter fun e => n < (e.eventSeq : Int)) = rest := by
        refine List.filter_eq_self.mpr fun other member => ?_
        have := first other member
        simp only [decide_eq_true_eq]
        omega
      simp [inside, past, none_left, all_right]

theorem upTo_append_beyond {repo : InMemoryMailboxRepository} (wf : WellFormed repo)
    (b : CursorBinding) (n : Int) : upTo b repo n ++ beyond b repo n = boundEvents b repo :=
  filter_le_append_lt (bound_ordered wf b) n

/-- Appending leaves what lies before the end of the log. -/
theorem upTo_extends {before later : InMemoryMailboxRepository} (wf : WellFormed later)
    (grown : Extends before later) (b : CursorBinding) {n : Int}
    (inside : n < (before.mailboxes b.mailboxRef).length) : upTo b later n = upTo b before n := by
  obtain ⟨tail, split⟩ := grown b.mailboxRef
  have dropped : ((tail.filter fun e => e.producerNamespace = b.actorNamespace ∧
      e.envelope.runId = b.runId ∧ e.envelope.nodeId = b.nodeId).filter
        fun e => (e.eventSeq : Int) ≤ n) = [] := by
    refine List.filter_eq_nil_iff.mpr fun e member => ?_
    obtain ⟨i, found⟩ := List.getElem?_of_mem (List.mem_filter.mp member).1
    have placed : (later.mailboxes b.mailboxRef)[(before.mailboxes b.mailboxRef).length + i]? =
        some e := by
      rw [← split, List.getElem?_append_right (Nat.le_add_right _ _), Nat.add_sub_cancel_left]
      exact found
    have seq := (wf.recorded _ _ _ placed).seq
    simp only [decide_eq_true_eq]
    omega
  unfold upTo boundEvents
  rw [← split, List.filter_append, List.filter_append, dropped, List.append_nil]

/-! ## Scanning and observing -/

omit [Sha256] in
theorem readCursor_binding (repo : InMemoryMailboxRepository) (b : CursorBinding) :
    repo.readCursor b.mailboxRef b.runId b.nodeId b.actorNamespace = .ok (repo.durableCursor b) := by
  obtain ⟨ref, run, node, actor⟩ := b.named
  unfold readCursor validateRef MailboxActorCursor.initial
  simp only [ensure_of ref, ok_bind, ref, run, node, actor, dite_false]
  rfl

/-- After the durable cursor come the actor's events with greater sequences. -/
theorem scan_durable {repo : InMemoryMailboxRepository} (wf : WellFormed repo) (b : CursorBinding) :
    repo.scanAfterCursor (repo.durableCursor b) =
      .ok (beyond b repo (repo.durableCursor b).lastEventSeq) := by
  have newer (e : MailboxEvent) (member : e ∈ repo.mailboxes b.mailboxRef) :
      decide (isNewer (repo.durableCursor b) e) =
        (decide ((repo.durableCursor b).lastEventSeq < (e.eventSeq : Int)) &&
          decide (e.producerNamespace = b.actorNamespace ∧ e.envelope.runId = b.runId ∧
            e.envelope.nodeId = b.nodeId)) := by
    rw [← Bool.decide_and]
    refine decide_eq_decide.mpr ⟨?_, ?_⟩
    · rintro ⟨actor, run, node, seq, _⟩
      exact ⟨seq, actor, run, node⟩
    rintro ⟨seq, actor, run, node⟩
    refine ⟨actor, run, node, seq, ?_⟩
    let reached : MailboxActorCursor := ⟨b, some (MailboxActorCursor.positionAt e)⟩
    refine forward_of_event (d := reached) wf (wf.bound b) (fun p held => ?_) seq
    exact ⟨e, member, Option.some.inj held, run, node, actor⟩
  have listed : (repo.mailboxes b.mailboxRef).filter (isNewer (repo.durableCursor b)) =
      beyond b repo (repo.durableCursor b).lastEventSeq := by
    unfold beyond boundEvents
    rw [List.filter_filter]
    exact List.filter_congr newer
  unfold InMemoryMailboxRepository.scanAfterCursor
  have own : (repo.durableCursor b).toCursorBinding = b := rfl
  rw [own]
  cases held : repo.actorCursors b with
  | none => exact congrArg Except.ok listed
  | some position =>
    have same : repo.durableCursor b = ⟨b, some position⟩ := by
      unfold InMemoryMailboxRepository.durableCursor
      rw [held]
    rw [same] at listed ⊢
    simp only [ensure_of (⟨le_refl _, le_refl _⟩ : _ ≤ _ ∧ _ ≤ _), ok_bind]
    exact congrArg Except.ok listed

/-- A newer event of the actor moves the cursor to it. -/
theorem observe_newer {c : MailboxActorCursor} {e : MailboxEvent}
    (mailbox : e.mailboxRef = c.mailboxRef) (run : e.envelope.runId = c.runId)
    (node : e.envelope.nodeId = c.nodeId) (actor : e.producerNamespace = c.actorNamespace)
    (seq : c.lastEventSeq < e.eventSeq) (logical : c.lastLogicalSeq < e.logicalSeq) :
    c.observe e = .ok { c with position := some (MailboxActorCursor.positionAt e) } := by
  have moved : c.position ≠ some (MailboxActorCursor.positionAt e) := by
    intro same
    unfold MailboxActorCursor.lastEventSeq at seq
    rw [same] at seq
    exact lt_irrefl _ seq
  have apart : ¬ (((e.eventSeq : Int) ≤ c.lastEventSeq ∨ (e.logicalSeq : Int) ≤ c.lastLogicalSeq) ∧
      ((e.eventSeq : Int) = c.lastEventSeq ∨ (e.logicalSeq : Int) = c.lastLogicalSeq)) := by
    omega
  unfold MailboxActorCursor.observe MailboxActorCursor.validateEventBinding
  rw [ensure_of mailbox, ok_bind, ensure_of ⟨run, node, actor⟩, ok_bind, if_neg moved,
    ensure_of apart, ok_bind, ensure_of ⟨seq, logical⟩, ok_bind]
  rfl

/-- The cursor that observed events in order stands at the last of them. -/
theorem observe_all {repo : InMemoryMailboxRepository} (wf : WellFormed repo) {b : CursorBinding}
    {events : List MailboxEvent} (ordered : events.Pairwise fun d e => d.eventSeq < e.eventSeq)
    (bound : ∀ e ∈ events, e ∈ boundEvents b repo) {c : MailboxActorCursor}
    (binding : c.toCursorBinding = b) (held : ∀ p, c.position = some p → Bound repo b p)
    (newer : ∀ e ∈ events, c.lastEventSeq < e.eventSeq) :
    ∃ next, events.foldlM MailboxActorCursor.observe c = .ok next ∧ next.toCursorBinding = b ∧
      (∀ p, next.position = some p → Bound repo b p) ∧ Forward c next ∧
      ∀ e ∈ events, (e.eventSeq : Int) ≤ next.lastEventSeq := by
  induction events generalizing c with
  | nil => exact ⟨c, rfl, binding, held, Forward.refl c, by simp⟩
  | cons e rest ih =>
    obtain ⟨first, later⟩ := List.pairwise_cons.mp ordered
    obtain ⟨member, actor, run, node⟩ := mem_boundEvents.mp (bound e List.mem_cons_self)
    have seq := newer e List.mem_cons_self
    let moved : MailboxActorCursor := { c with position := some (MailboxActorCursor.positionAt e) }
    have reached : ∀ p, moved.position = some p → Bound repo b p := fun p here =>
      ⟨e, member, Option.some.inj here, run, node, actor⟩
    have logical : c.lastLogicalSeq < moved.lastLogicalSeq := forward_of_event wf held reached seq
    subst binding
    have observed : c.observe e = .ok moved :=
      observe_newer (wf.recorded_of_mem member).mailbox run node actor seq logical
    obtain ⟨next, folded, same, kept, forward, covered⟩ := ih (c := moved) later
      (fun d inside => bound d (List.mem_cons_of_mem e inside)) rfl reached
      (fun d inside => Int.ofNat_lt.mpr (first d inside))
    refine ⟨next, ?_, same, kept, Forward.trans (b := moved) ⟨le_of_lt seq, le_of_lt logical⟩ forward, ?_⟩
    · rw [List.foldlM_cons, observed, ok_bind]
      exact folded
    · intro d inside
      rcases List.mem_cons.mp inside with rfl | inside
      · exact forward.event
      · exact covered d inside

/-! ## The invariant -/

omit [Sha256] in
/-- Where the consumer is: the cursor to acknowledge, or the durable one. -/
def reached (b : CursorBinding) (s : System) : MailboxActorCursor :=
  s.consumer.pending.getD (s.repo.durableCursor b)

structure Tracking (b : CursorBinding) (s : System) : Prop where
  sound : Sound s.repo
  quiet : s.consumer.raised = []
  binding : (reached b s).toCursorBinding = b
  bound : ∀ p, (reached b s).position = some p → Bound s.repo b p
  ahead : Forward (s.repo.durableCursor b) (reached b s)
  received : s.consumer.received = upTo b s.repo (reached b s).lastEventSeq

theorem tracking_start (b : CursorBinding) : Tracking b {} where
  sound := sound_empty
  quiet := rfl
  binding := rfl
  bound _ held := nomatch held
  ahead := Forward.refl _
  received := rfl

/-- A call of another actor, or one that acknowledges nothing. -/
def Foreign (b : CursorBinding) : Operation → Prop
  | .acknowledgeCursor cursor => cursor.toCursorBinding ≠ b
  | _ => True

theorem durable_foreign {repo : InMemoryMailboxRepository} {b : CursorBinding} {op : Operation}
    (foreign : Foreign b op) : (perform repo op).durableCursor b = repo.durableCursor b := by
  cases op with
  | write ref expectedSeq envelope expected =>
    change (repo.write ref expectedSeq envelope expected).2.durableCursor b = _
    unfold InMemoryMailboxRepository.durableCursor
    rw [durable_write]
  | acknowledgeCursor cursor =>
    change (repo.acknowledgeCursor cursor).2.durableCursor b = _
    rcases acknowledge_cases repo cursor with
      ⟨e, outcome⟩ | ⟨_, outcome⟩ | ⟨event, _, _, _, _, _, _, outcome⟩
    · rw [outcome]
    · rw [outcome]
    · rw [outcome]
      simp only [InMemoryMailboxRepository.durableCursor, Function.update_of_ne (Ne.symm foreign)]
  | read _ => rfl
  | exactReadback _ => rfl
  | readCursor _ _ _ _ => rfl
  | scanAfterCursor _ => rfl

/-- A position of the actor lies inside its log. -/
theorem position_inside {repo : InMemoryMailboxRepository} (wf : WellFormed repo)
    {b : CursorBinding} {c : MailboxActorCursor} (held : ∀ p, c.position = some p → Bound repo b p) :
    c.lastEventSeq < (repo.mailboxes b.mailboxRef).length := by
  unfold MailboxActorCursor.lastEventSeq
  cases position : c.position with
  | none =>
    rw [Option.elim_none]
    omega
  | some p =>
    obtain ⟨e, member, rfl, -⟩ := held p position
    exact Int.ofNat_lt.mpr (wf.seq_lt member)

theorem tracking_call {b : CursorBinding} {s : System} (tracking : Tracking b s) {op : Operation}
    (foreign : Foreign b op) : Tracking b { s with repo := perform s.repo op } := by
  obtain ⟨sound, grown⟩ := sound_perform tracking.sound op
  have still : reached b { s with repo := perform s.repo op } = reached b s := by
    unfold reached
    rw [durable_foreign foreign]
  refine ⟨sound, tracking.quiet, ?_, ?_, ?_, ?_⟩
  · rw [still]
    exact tracking.binding
  · intro p held
    rw [still] at held
    obtain ⟨e, member, same⟩ := tracking.bound p held
    exact ⟨e, grown.mem member, same⟩
  · rw [still, durable_foreign foreign]
    exact tracking.ahead
  · have inside := position_inside tracking.sound.wellFormed tracking.bound
    rw [still, upTo_extends sound.wellFormed grown b inside]
    exact tracking.received

/-- The checks of an acknowledgement hold at a later position of the actor. -/
theorem acknowledgeable_later {repo : InMemoryMailboxRepository} (wf : WellFormed repo)
    {c : MailboxActorCursor} (held : ∀ p, c.position = some p → Bound repo c.toCursorBinding p)
    (later : (repo.durableCursor c.toCursorBinding).lastEventSeq < c.lastEventSeq) :
    repo.acknowledgeable c = .ok () := by
  have logical := forward_of_event wf (wf.bound c.toCursorBinding) held later
  cases position : c.position with
  | none =>
    have low := neg_one_le_event (repo.durableCursor c.toCursorBinding)
    have start : c.lastEventSeq = -1 := by
      unfold MailboxActorCursor.lastEventSeq
      rw [position, Option.elim_none]
    omega
  | some p =>
    obtain ⟨e, member, rfl, run, node, actor⟩ := held p position
    have id : c.lastEventId = some e.eventId := by
      unfold MailboxActorCursor.lastEventId
      rw [position]
      rfl
    have found : (repo.mailboxes c.mailboxRef).find? (some ·.eventId = c.lastEventId) = some e := by
      rw [id]
      simpa using wf.find_id member
    have exactly : (e.eventSeq : Int) = c.lastEventSeq ∧ (e.logicalSeq : Int) = c.lastLogicalSeq ∧
        some e.eventDigest.value = c.lastEventDigest := by
      unfold MailboxActorCursor.lastEventSeq MailboxActorCursor.lastLogicalSeq
        MailboxActorCursor.lastEventDigest
      rw [position]
      exact ⟨rfl, rfl, rfl⟩
    have forward := And.intro (le_of_lt later) (le_of_lt logical)
    have apart := And.intro (ne_of_gt later) (ne_of_gt logical)
    unfold acknowledgeable MailboxActorCursor.validateEventBinding
    simp only [ensure_of forward, ensure_of apart, ok_bind, found,
      ensure_of (wf.recorded_of_mem member).mailbox, ensure_of (And.intro run (And.intro node actor)),
      ensure_of exactly]

/-- Two cursors of one actor at one place are the same. -/
theorem cursor_eq {repo : InMemoryMailboxRepository} (wf : WellFormed repo) {c d : MailboxActorCursor}
    (binding : c.toCursorBinding = d.toCursorBinding)
    (first : ∀ p, c.position = some p → Bound repo c.toCursorBinding p)
    (second : ∀ p, d.position = some p → Bound repo d.toCursorBinding p)
    (equal : c.lastEventSeq = d.lastEventSeq) : c = d := by
  obtain ⟨b, p⟩ := c
  obtain ⟨b', q⟩ := d
  obtain rfl : b = b' := binding
  unfold MailboxActorCursor.lastEventSeq at equal
  cases p with
  | none =>
    cases q with
    | none => rfl
    | some q =>
      simp only [Option.elim_none, Option.elim_some] at equal
      omega
  | some p =>
    cases q with
    | none =>
      simp only [Option.elim_none, Option.elim_some] at equal
      omega
    | some q =>
      simp only [Option.elim_some, Int.natCast_inj] at equal
      rw [bound_eq wf (first p rfl) (second q rfl) equal]

/-- Acknowledging the cursor that observed a scan succeeds. -/
theorem acknowledge_reached {repo : InMemoryMailboxRepository} (wf : WellFormed repo)
    {c : MailboxActorCursor} (held : ∀ p, c.position = some p → Bound repo c.toCursorBinding p)
    (ahead : Forward (repo.durableCursor c.toCursorBinding) c) :
    ∃ later, repo.acknowledgeCursor c = (.ok c, later) ∧ later.durableCursor c.toCursorBinding = c := by
  unfold InMemoryMailboxRepository.acknowledgeCursor
  by_cases same : c = repo.durableCursor c.toCursorBinding
  · exact ⟨repo, if_pos same, same.symm⟩
  · have later : (repo.durableCursor c.toCursorBinding).lastEventSeq < c.lastEventSeq := by
      refine lt_of_le_of_ne ahead.event fun equal => same ?_
      exact cursor_eq wf rfl held (wf.bound c.toCursorBinding) equal.symm
    rw [if_neg same, acknowledgeable_later wf held later]
    refine ⟨_, rfl, ?_⟩
    simp [InMemoryMailboxRepository.durableCursor]

theorem tracking_acknowledge {b : CursorBinding} {s : System} (tracking : Tracking b s)
    {cursor : MailboxActorCursor} (waiting : s.consumer.pending = some cursor) :
    Tracking b (turn b s) := by
  have here : reached b s = cursor := by
    unfold reached
    rw [waiting, Option.getD_some]
  obtain ⟨sound, quiet, binding, bound, ahead, received⟩ := tracking
  rw [here] at binding bound ahead received
  subst binding
  obtain ⟨later, acknowledged, durable⟩ := acknowledge_reached sound.wellFormed bound ahead
  obtain ⟨kept, logs⟩ := acknowledge_wellFormed sound.wellFormed cursor
  rw [acknowledged] at kept logs
  have next : turn cursor.toCursorBinding s = ⟨later, { s.consumer with pending := none }⟩ := by
    unfold turn
    rw [waiting]
    simp only [acknowledged]
  have still : reached cursor.toCursorBinding ⟨later, { s.consumer with pending := none }⟩ =
      cursor := durable
  rw [next]
  refine ⟨⟨kept, logs ▸ sound.linked⟩, quiet, ?_, ?_, ?_, ?_⟩
  · rw [still]
  · rw [still]
    intro p held
    obtain ⟨e, member, same⟩ := bound p held
    exact ⟨e, logs ▸ member, same⟩
  · rw [still]
    exact durable ▸ Forward.refl _
  · rw [still]
    refine received.trans ?_
    unfold upTo boundEvents
    rw [logs]

/-- A scan receives exactly the events of the actor that were left. -/
theorem tracking_scan {b : CursorBinding} {s : System} (tracking : Tracking b s)
    (idle : s.consumer.pending = none) :
    Tracking b (turn b s) ∧ (turn b s).consumer.received = boundEvents b s.repo := by
  have here : reached b s = s.repo.durableCursor b := by
    unfold reached
    rw [idle, Option.getD_none]
  obtain ⟨sound, quiet, -, bound, -, received⟩ := tracking
  rw [here] at bound received
  have wf := sound.wellFormed
  generalize shape : beyond b s.repo (s.repo.durableCursor b).lastEventSeq = left
  have ordered : left.Pairwise fun d e => d.eventSeq < e.eventSeq :=
    shape ▸ (bound_ordered wf b).filter _
  have placed : ∀ e, e ∈ left ↔ e ∈ boundEvents b s.repo ∧
      (s.repo.durableCursor b).lastEventSeq < e.eventSeq := by
    intro e
    rw [← shape, beyond, List.mem_filter, decide_eq_true_iff]
  obtain ⟨next, folded, binding, held, forward, covered⟩ :=
    observe_all wf ordered (fun e member => ((placed e).mp member).1) rfl bound
      (fun e member => ((placed e).mp member).2)
  have whole : s.consumer.received ++ left = boundEvents b s.repo := by
    rw [received, ← shape]
    exact upTo_append_beyond wf b _
  have scanned : turn b s = { s with consumer := { s.consumer with
      received := s.consumer.received ++ left, pending := some next } } := by
    unfold turn receive
    rw [idle]
    simp only [readCursor_binding, ok_bind, scan_durable wf, shape, folded]
    rfl
  rw [scanned]
  refine ⟨⟨sound, quiet, binding, held, forward, ?_⟩, whole⟩
  refine whole.trans (Eq.symm (List.filter_eq_self.mpr fun e member => decide_eq_true ?_))
  change (e.eventSeq : Int) ≤ next.lastEventSeq
  rcases le_or_gt (e.eventSeq : Int) (s.repo.durableCursor b).lastEventSeq with old | new
  · exact old.trans forward.event
  · exact covered e ((placed e).mpr ⟨member, new⟩)

/-! ## Runs -/

/-- The moves of the consumer of `b` among the calls of everyone else. -/
def Proper (b : CursorBinding) : Move → Prop
  | .call op => Foreign b op
  | .turn => True

theorem tracking_step {b : CursorBinding} {s : System} (tracking : Tracking b s) {m : Move}
    (proper : Proper b m) : Tracking b (step b s m) := by
  cases m with
  | call op => exact tracking_call tracking proper
  | turn =>
    cases waiting : s.consumer.pending with
    | none => exact (tracking_scan tracking waiting).1
    | some cursor => exact tracking_acknowledge tracking waiting

end DwSuperApps.Guarantees.MailboxDelivery
