import DwSuperApps.Source.Monitoring

/-!
# Replies classified once

A thread polled with a moving cursor. `poll_due` is what one poll hands to the classifier,
`pollLoop_due` what a segment does with the batches that become visible to it, and
`classified_once` joins the segments: every reply newer than the starting cursor is
classified once, by its key, up to the report that ends the monitoring. Replies that become
visible behind the cursor are the ones the poll leaves out.
-/
namespace DwSuperApps.Guarantees.ReplyMonitoring

open DwSuperApps.Lib DwSuperApps.Lib.Checked DwSuperApps.Lib.Sorted
open DwSuperApps.Source.Monitoring

/-! ## Keys -/

def Readable (ts : String) : Prop := ∃ key, tsKey ts = .ok key

/-- The key of a readable timestamp. -/
def keyOf (ts : String) : TsKey :=
  match tsKey ts with
  | .ok key => key
  | .error _ => toLex (0, toLex (0, toLex (0, "")))

def replyKey (r : ThreadReply) : TsKey := keyOf r.ts

theorem tsKey_of {ts : String} (readable : Readable ts) : tsKey ts = .ok (keyOf ts) := by
  obtain ⟨key, read⟩ := readable
  unfold keyOf
  rw [read]

/-- A reply behind the cursor or not. -/
def Newer (cursor : Option String) (r : ThreadReply) : Prop :=
  ∀ seen ∈ cursor, keyOf seen < replyKey r

instance (cursor : Option String) (r : ThreadReply) : Decidable (Newer cursor r) := by
  unfold Newer
  infer_instance

/-- The replies newer than a cursor. -/
def fresh (cursor : Option String) (replies : List ThreadReply) : List ThreadReply :=
  replies.filter fun r => Newer cursor r

theorem isNewer_of {cursor : Option String} {r : ThreadReply} (readable : Readable r.ts)
    (seen : ∀ ts ∈ cursor, Readable ts) : isNewer r.ts cursor = .ok (decide (Newer cursor r)) := by
  cases cursor with
  | none => simp [isNewer, Newer]
  | some ts =>
    rw [isNewer, tsKey_of readable, ok_bind, tsKey_of (seen ts rfl), ok_bind]
    simp [Newer, replyKey, pure, Except.pure]

theorem newerOnly_of {cursor : Option String} {replies : List ThreadReply}
    (readable : ∀ r ∈ replies, Readable r.ts) (seen : ∀ ts ∈ cursor, Readable ts) :
    newerOnly cursor replies = .ok (fresh cursor replies) := by
  induction replies with
  | nil => rfl
  | cons r rest ih =>
    rw [List.forall_mem_cons] at readable
    rw [newerOnly, isNewer_of readable.1 seen, ok_bind, ih readable.2, ok_bind]
    by_cases newer : Newer cursor r
    · simp [fresh, newer, pure, Except.pure]
    · simp [fresh, newer, pure, Except.pure]

/-! ## Timestamps once -/

theorem uniqueReplies_sublist (seen : List String) (l : List ThreadReply) :
    (uniqueReplies seen l).Sublist l := by
  fun_induction uniqueReplies seen l with
  | case1 => exact .slnil
  | case2 _ _ _ _ ih => exact ih.cons _
  | case3 _ _ _ _ ih => exact ih.cons_cons _

theorem uniqueReplies_apart (seen : List String) (l : List ThreadReply) :
    (∀ r ∈ uniqueReplies seen l, r.ts ∉ seen) ∧
      (uniqueReplies seen l).Pairwise fun a b => a.ts ≠ b.ts := by
  fun_induction uniqueReplies seen l with
  | case1 => simp
  | case2 _ _ _ _ ih => exact ih
  | case3 seen reply rest new ih =>
    obtain ⟨unseen, apart⟩ := ih
    refine ⟨?_, ?_⟩
    · rw [List.forall_mem_cons]
      exact ⟨new, fun r member inside => unseen r member (List.mem_append_left _ inside)⟩
    · rw [List.pairwise_cons]
      refine ⟨?_, apart⟩
      intro r member same
      exact unseen r member (List.mem_append_right _ (List.mem_singleton.mpr same.symm))

theorem uniqueReplies_covers {seen : List String} {l : List ThreadReply} {r : ThreadReply}
    (member : r ∈ l) (unseen : r.ts ∉ seen) : ∃ kept ∈ uniqueReplies seen l, kept.ts = r.ts := by
  fun_induction uniqueReplies seen l with
  | case1 => cases member
  | case2 seen reply rest old ih =>
    rcases List.mem_cons.mp member with rfl | later
    · exact absurd old unseen
    · exact ih later unseen
  | case3 seen reply rest new ih =>
    by_cases same : reply.ts = r.ts
    · exact ⟨reply, List.mem_cons_self, same⟩
    · have later : r ∈ rest := (List.mem_cons.mp member).resolve_left fun first => same (first ▸ rfl)
      obtain ⟨kept, inside, found⟩ := ih later fun seen' =>
        (List.mem_append.mp seen').elim unseen fun own => same (List.mem_singleton.mp own).symm
      exact ⟨kept, List.mem_cons_of_mem _ inside, found⟩

/-! ## One poll -/

/-- Where keys tell the new replies apart, a poll takes each of them once, by its key. -/
theorem poll_due {cursor : Option String} {replies due : List ThreadReply}
    (readable : ∀ r ∈ replies, Readable r.ts) (seen : ∀ ts ∈ cursor, Readable ts)
    (distinct : (due.map replyKey).Nodup)
    (members : ∀ r, r ∈ due ↔ r ∈ replies ∧ Newer cursor r) :
    newerReplies replies cursor = .ok (sortedBy replyKey due) := by
  have keys : (fresh cursor replies).mapM (fun r => do
      let key ← tsKey r.ts
      return (key, r)) = .ok ((fresh cursor replies).map fun r => (replyKey r, r)) := by
    rw [mapM_ok, List.forall₂_map_right_iff, List.forall₂_same]
    intro r member
    rw [tsKey_of (readable r (List.mem_filter.mp member).1)]
    rfl
  have sorted : (sortedBy Prod.fst ((fresh cursor replies).map fun r => (replyKey r, r))).map Prod.snd =
      sortedBy replyKey (fresh cursor replies) := sortedBy_keyed
  have inFresh : ∀ r, r ∈ sortedBy replyKey (fresh cursor replies) ↔ r ∈ due := by
    intro r
    rw [mem_sortedBy, fresh, List.mem_filter, members r, decide_eq_true_iff]
  -- among what is due a key belongs to one reply
  have one : ∀ a ∈ due, ∀ b ∈ due, replyKey a = replyKey b → a = b :=
    fun a first b second same => List.inj_on_of_nodup_map distinct first second same
  unfold newerReplies
  rw [newerOnly_of readable seen, ok_bind, keys, ok_bind, sorted]
  refine congrArg Except.ok (eq_of_strict ?_ (sortedBy_strict distinct) ?_)
  · have ordered : (sortedBy replyKey (fresh cursor replies)).Pairwise fun a b => replyKey a ≤ replyKey b :=
      pairwise_sortedBy
    have weak := ordered.sublist (uniqueReplies_sublist [] _)
    have apart := (uniqueReplies_apart [] (sortedBy replyKey (fresh cursor replies))).2
    have taken := (uniqueReplies_sublist [] (sortedBy replyKey (fresh cursor replies))).subset
    refine (weak.and apart).imp_of_mem ?_
    intro a b first second both
    refine lt_of_le_of_ne both.1 fun same => both.2 ?_
    rw [one a ((inFresh a).mp (taken first)) b ((inFresh b).mp (taken second)) same]
  · intro r
    rw [mem_sortedBy, ← inFresh r]
    constructor
    · exact fun inside => (uniqueReplies_sublist [] _).subset inside
    · intro inside
      obtain ⟨kept, member, same⟩ := uniqueReplies_covers inside (List.not_mem_nil (a := r.ts))
      have own := (uniqueReplies_sublist [] _).subset member
      have equal : kept = r :=
        one kept ((inFresh kept).mp own) r ((inFresh r).mp inside) (congrArg keyOf same)
      rwa [equal] at member

/-! ## Classification -/

/-- The verdict on a reply, or the report's refusal. -/
def judge (contracted : ContractedSubtask) (r : ThreadReply) : Except Raised ProtocolVerdict :=
  (ExecutorReport.fromPayload r.payload).map (classifyReport contracted)

/-- A reply that ends the monitoring: a boundary, or a report that is refused. -/
def ends (contracted : ContractedSubtask) (r : ThreadReply) : Bool :=
  match judge contracted r with
  | .ok verdict => verdict.verdict ∈ boundaryVerdicts
  | .error _ => true

/-- The verdicts on replies in their order, the one that ends the monitoring included; a
refused report has none. -/
def classifyThread (contracted : ContractedSubtask) :
    List ThreadReply → List (ThreadReply × ProtocolVerdict)
  | [] => []
  | r :: rest =>
    match judge contracted r with
    | .error _ => []
    | .ok verdict =>
      (r, verdict) ::
        if verdict.verdict ∈ boundaryVerdicts then [] else classifyThread contracted rest

def stops (contracted : ContractedSubtask) (replies : List ThreadReply) : Bool :=
  replies.any (ends contracted)

theorem classifyThread_append (contracted : ContractedSubtask) (front back : List ThreadReply) :
    classifyThread contracted (front ++ back) = classifyThread contracted front ++
      if stops contracted front then [] else classifyThread contracted back := by
  induction front with
  | nil => rfl
  | cons r rest ih =>
    rw [List.cons_append, classifyThread, classifyThread, stops, List.any_cons, ends]
    cases judge contracted r with
    | error e => simp
    | ok verdict =>
      dsimp only
      by_cases boundary : verdict.verdict ∈ boundaryVerdicts
      · simp [boundary]
      · rw [if_neg boundary, if_neg boundary, ih, stops]
        simp [boundary]

theorem stops_append (contracted : ContractedSubtask) (front back : List ThreadReply) :
    stops contracted (front ++ back) = (stops contracted front || stops contracted back) :=
  List.any_append

/-- The classifications among the calls of a segment. -/
def classified (calls : List Call) : List (ThreadReply × ProtocolVerdict) :=
  calls.filterMap fun
    | .classified reply verdict => some (reply, verdict)
    | _ => none

theorem classified_append (front back : List Call) :
    classified (front ++ back) = classified front ++ classified back := List.filterMap_append

theorem classified_classify (s : Progress) (poll : Nat) (reply : ThreadReply) (report : ExecutorReport)
    (verdict : ProtocolVerdict) : classified (s.classify poll reply report verdict).calls =
      classified s.calls ++ [(reply, verdict)] := by
  unfold Progress.classify
  dsimp only
  rw [classified_append]
  congr 1
  split <;> rfl

/-- The cursor behind replies that were handled. -/
def cursorAfter (cursor : Option String) (replies : List ThreadReply) : Option String :=
  match replies.getLast? with
  | some last => some last.ts
  | none => cursor

theorem cursorAfter_cons (cursor : Option String) (r : ThreadReply) (rest : List ThreadReply) :
    cursorAfter cursor (r :: rest) = cursorAfter (some r.ts) rest := by
  unfold cursorAfter
  rw [List.getLast?_cons]
  cases rest.getLast? <;> rfl

/-- What a step of the loop did to the replies it was handed. -/
structure Handled (contracted : ContractedSubtask) (s : Progress) (due : List ThreadReply)
    (result : Progress × Ended) : Prop where
  calls : classified result.1.calls = classified s.calls ++ classifyThread contracted due
  ended : result.2.isSome = stops contracted due
  cursor : stops contracted due = false → result.1.cursor = cursorAfter s.cursor due

theorem handleReplies_handled (contracted : ContractedSubtask) (poll : Nat) (due : List ThreadReply)
    (s : Progress) : Handled contracted s due (handleReplies contracted poll s due) := by
  induction due generalizing s with
  | nil => exact ⟨by simp [handleReplies, classifyThread], rfl, fun _ => rfl⟩
  | cons r rest ih =>
    have judged : judge contracted r =
        (ExecutorReport.fromPayload r.payload).map (classifyReport contracted) := rfl
    rw [handleReplies]
    cases read : ExecutorReport.fromPayload r.payload with
    | error e =>
      rw [read] at judged
      have finished : ends contracted r = true := by
        unfold ends
        rw [judged]
        rfl
      have whole : stops contracted (r :: rest) = true := by
        rw [stops, List.any_cons, finished, Bool.true_or]
      refine ⟨?_, whole.symm, fun open_ => absurd (open_ ▸ whole) Bool.false_ne_true⟩
      rw [classifyThread, judged]
      exact (List.append_nil _).symm
    | ok report =>
      rw [read] at judged
      change judge contracted r = .ok (classifyReport contracted report) at judged
      dsimp only
      have finished : ends contracted r = decide ((classifyReport contracted report).verdict ∈ boundaryVerdicts) := by
        unfold ends
        rw [judged]
      by_cases boundary : (classifyReport contracted report).verdict ∈ boundaryVerdicts
      · have whole : stops contracted (r :: rest) = true := by
          rw [stops, List.any_cons, finished, decide_eq_true boundary, Bool.true_or]
        rw [if_pos boundary]
        refine ⟨?_, whole.symm, fun open_ => absurd (open_ ▸ whole) Bool.false_ne_true⟩
        rw [classified_classify, classifyThread, judged]
        simp [boundary]
      · have whole : stops contracted (r :: rest) = stops contracted rest := by
          rw [stops, List.any_cons, finished, decide_eq_false boundary, Bool.false_or, stops]
        rw [if_neg boundary]
        obtain ⟨calls, ended, cursor⟩ := ih
          (({ s with cursor := some r.ts } : Progress).classify poll r report
            (classifyReport contracted report))
        refine ⟨?_, by rw [ended, whole], ?_⟩
        · rw [calls, classified_classify, classifyThread, judged, List.append_assoc]
          simp [boundary]
        · intro open_
          rw [whole] at open_
          rw [cursor open_, cursorAfter_cons]
          rfl

/-! ## Batches -/

/-- The host's reader over batches of replies, one more of them visible at each poll: it
returns all that is newer than the cursor and nothing that is not visible. -/
structure Delivers (batches : List (List ThreadReply)) (read : Reader) : Prop where
  visible : ∀ k cursor, ∀ r ∈ read (k + 1) cursor, r ∈ (batches.take (k + 1)).flatten
  newer : ∀ k cursor, ∀ r ∈ (batches.take (k + 1)).flatten, Newer cursor r → r ∈ read (k + 1) cursor

/-- Threads a moving cursor loses nothing of: each poll brings replies with keys of their own,
behind those of all polls before it. -/
structure Steady (start : Option String) (batches : List (List ThreadReply)) : Prop where
  readable : ∀ r ∈ batches.flatten, Readable r.ts
  apart : ∀ batch ∈ batches, ((fresh start batch).map replyKey).Nodup
  inTurn : batches.Pairwise fun earlier later =>
    ∀ a ∈ fresh start earlier, ∀ b ∈ fresh start later, replyKey a < replyKey b

/-- What the polls are due, one batch after the other. -/
def due (start : Option String) (batches : List (List ThreadReply)) : List ThreadReply :=
  batches.flatMap fun batch => sortedBy replyKey (fresh start batch)

/-- A cursor between what was polled and what is still to come. -/
structure Between (start cursor : Option String) (before after : List (List ThreadReply)) : Prop where
  readable : ∀ ts ∈ cursor, Readable ts
  solid : ∀ ts ∈ cursor, strip ts ≠ ""
  behind : ∀ r ∈ before.flatten, ¬ Newer cursor r
  ahead : ∀ r ∈ after.flatten, Newer cursor r ↔ Newer start r

theorem newer_some (last r : ThreadReply) : Newer (some last.ts) r ↔ replyKey last < replyKey r := by
  simp [Newer, replyKey]

theorem newer_trans {cursor : Option String} {a b : ThreadReply} (newer : Newer cursor a)
    (later : replyKey a < replyKey b) : Newer cursor b :=
  fun seen member => lt_trans (newer seen member) later

theorem mem_fresh {cursor : Option String} {replies : List ThreadReply} {r : ThreadReply} :
    r ∈ fresh cursor replies ↔ r ∈ replies ∧ Newer cursor r := by
  rw [fresh, List.mem_filter, decide_eq_true_iff]

/-- The last of the sorted replies has the greatest key. -/
theorem le_last {replies : List ThreadReply} {last : ThreadReply}
    (found : (sortedBy replyKey replies).getLast? = some last) :
    last ∈ replies ∧ ∀ r ∈ replies, replyKey r ≤ replyKey last := by
  obtain ⟨front, shape⟩ := List.getLast?_eq_some_iff.mp found
  have sorted : (sortedBy replyKey replies).Pairwise fun a b => replyKey a ≤ replyKey b := pairwise_sortedBy
  rw [shape, List.pairwise_append] at sorted
  refine ⟨mem_sortedBy.mp (shape ▸ List.mem_append_right _ List.mem_cons_self), ?_⟩
  intro r member
  have inside : r ∈ sortedBy replyKey replies := mem_sortedBy.mpr member
  rw [shape] at inside
  rcases List.mem_append.mp inside with earlier | own
  · exact sorted.2.2 r earlier last List.mem_cons_self
  · rw [List.mem_singleton.mp own]

variable {contracted : ContractedSubtask} {interval : Nat} {start : Option String}
  {batches done rest : List (List ThreadReply)} {batch : List ThreadReply} {read : Reader}

/-- A poll moves the cursor behind its batch. -/
theorem between_step {cursor : Option String} (steady : Steady start (done ++ batch :: rest))
    (between : Between start cursor done (batch :: rest)) :
    Between start (cursorAfter cursor (sortedBy replyKey (fresh start batch))) (done ++ [batch]) rest := by
  have ahead : ∀ r ∈ batch, Newer cursor r ↔ Newer start r := fun r member =>
    between.ahead r (List.mem_flatten.mpr ⟨batch, List.mem_cons_self, member⟩)
  have further : ∀ r ∈ rest.flatten, Newer cursor r ↔ Newer start r := by
    intro r member
    refine between.ahead r ?_
    rw [List.flatten_cons]
    exact List.mem_append_right _ member
  have covered : ∀ {P : ThreadReply → Prop}, (∀ r ∈ done.flatten, P r) → (∀ r ∈ batch, P r) →
      ∀ r ∈ (done ++ [batch]).flatten, P r := by
    intro P first second r member
    rw [List.flatten_append, List.flatten_singleton] at member
    exact (List.mem_append.mp member).elim (first r) (second r)
  unfold cursorAfter
  cases found : (sortedBy replyKey (fresh start batch)).getLast? with
  | none =>
    have empty : fresh start batch = [] :=
      List.perm_nil.mp (List.getLast?_eq_none_iff.mp found ▸ perm_sortedBy.symm)
    refine ⟨between.readable, between.solid, covered between.behind ?_, further⟩
    intro r member newer
    have inside : r ∈ fresh start batch := mem_fresh.mpr ⟨member, (ahead r member).mp newer⟩
    rw [empty] at inside
    cases inside
  | some last =>
    obtain ⟨own, greatest⟩ := le_last found
    obtain ⟨inBatch, newerLast⟩ := mem_fresh.mp own
    refine ⟨?_, ?_, covered ?_ ?_, ?_⟩
    · rintro ts ⟨⟩
      exact steady.readable last (List.mem_flatten.mpr
        ⟨batch, List.mem_append_right _ List.mem_cons_self, inBatch⟩)
    · rintro ts ⟨⟩
      exact last.timed
    · intro r member newer
      rw [newer_some] at newer
      exact between.behind r member (newer_trans ((ahead last inBatch).mpr newerLast) newer)
    · intro r member newer
      rw [newer_some] at newer
      have inside : r ∈ fresh start batch := mem_fresh.mpr ⟨member, newer_trans newerLast newer⟩
      exact absurd newer (not_lt.mpr (greatest r inside))
    · intro r member
      rw [newer_some]
      constructor
      · exact newer_trans newerLast
      · intro newer
        obtain ⟨later, inRest, inLater⟩ := List.mem_flatten.mp member
        have turns := (List.pairwise_cons.mp (List.pairwise_append.mp steady.inTurn).2.1).1
        exact turns later inRest last own r (mem_fresh.mpr ⟨inLater, newer⟩)

/-- A poll handles its batch. -/
theorem onePoll_handled (delivers : Delivers (done ++ batch :: rest) read)
    (steady : Steady start (done ++ batch :: rest)) {s : Progress}
    (between : Between start s.cursor done (batch :: rest)) {offset poll : Nat}
    (turn : offset + poll = done.length + 1) :
    Handled contracted s (sortedBy replyKey (fresh start batch))
      (onePoll contracted (fun poll => read (offset + poll)) interval poll s) := by
  have seen : (done ++ batch :: rest).take (done.length + 1) = done ++ [batch] := by
    rw [List.take_length_add_append, List.take_succ_cons, List.take_zero]
  unfold onePoll
  dsimp only
  rw [turn]
  have visible := delivers.visible done.length s.cursor
  have newer := delivers.newer done.length s.cursor
  rw [seen] at visible newer
  have inBatch : ∀ r, r ∈ fresh start batch ↔
      r ∈ read (done.length + 1) s.cursor ∧ Newer s.cursor r := by
    intro r
    rw [mem_fresh]
    have ahead := fun member => between.ahead r (List.mem_flatten.mpr ⟨batch, List.mem_cons_self, member⟩)
    constructor
    · rintro ⟨member, fromStart⟩
      have now := (ahead member).mpr fromStart
      exact ⟨newer r (List.mem_flatten.mpr ⟨batch, List.mem_append_right _ List.mem_cons_self, member⟩) now,
        now⟩
    · rintro ⟨returned, now⟩
      have known := visible r returned
      rw [List.flatten_append, List.flatten_singleton] at known
      rcases List.mem_append.mp known with old | member
      · exact absurd now (between.behind r old)
      · exact ⟨member, (ahead member).mp now⟩
  have readable : ∀ r ∈ read (done.length + 1) s.cursor, Readable r.ts := by
    intro r returned
    refine steady.readable r ?_
    have known := visible r returned
    rw [List.flatten_append, List.flatten_singleton] at known
    rw [List.flatten_append, List.flatten_cons, ← List.append_assoc]
    exact List.mem_append_left _ known
  have distinct := steady.apart batch (List.mem_append_right _ List.mem_cons_self)
  rw [poll_due readable between.readable distinct inBatch]
  have handled := handleReplies_handled contracted poll (sortedBy replyKey (fresh start batch))
    { s with calls := s.calls ++ [.sleeper interval] }
  refine ⟨?_, handled.ended, handled.cursor⟩
  have calls := handled.calls
  rwa [classified_append, show classified [Call.sleeper interval] = [] from rfl, List.append_nil] at calls

theorem due_cons (start : Option String) (batch : List ThreadReply) (rest : List (List ThreadReply)) :
    due start (batch :: rest) = sortedBy replyKey (fresh start batch) ++ due start rest :=
  List.flatMap_cons

/-- A segment of polls handles the batches that become visible to it, and leaves its cursor
between them and what is still to come. -/
theorem pollLoop_due (delivers : Delivers (done ++ batches ++ rest) read)
    (steady : Steady start (done ++ batches ++ rest)) {s : Progress}
    (between : Between start s.cursor done (batches ++ rest)) {offset poll : Nat}
    (turn : offset + poll = done.length + 1) {result : Progress × Ended}
    (ran : pollLoop contracted (fun poll => read (offset + poll)) interval poll batches.length s = result) :
    classified result.1.calls = classified s.calls ++ classifyThread contracted (due start batches) ∧
      result.2.isSome = stops contracted (due start batches) ∧
      (stops contracted (due start batches) = false →
        Between start result.1.cursor (done ++ batches) rest) := by
  induction batches generalizing done s poll with
  | nil =>
    subst ran
    exact ⟨(List.append_nil _).symm, rfl, fun _ => by rwa [List.append_nil]⟩
  | cons batch later ih =>
    rw [List.append_assoc, List.cons_append] at delivers steady
    rw [List.cons_append] at between
    have handled := @onePoll_handled contracted interval _ _ _ _ _ delivers steady _ between _ _ turn
    rw [due_cons, stops_append, classifyThread_append]
    rw [List.length_cons, pollLoop] at ran
    cases polled : onePoll contracted (fun poll => read (offset + poll)) interval poll s with
    | mk s' ended =>
      rw [polled] at ran handled
      obtain ⟨calls, finished, cursor⟩ := handled
      cases ended with
      | some e =>
        -- the monitoring ended in this poll
        subst ran
        have stopped : stops contracted (sortedBy replyKey (fresh start batch)) = true := finished.symm
        rw [stopped]
        exact ⟨by simpa using calls, rfl, fun open_ => absurd open_ (by simp)⟩
      | none =>
        have stopped : stops contracted (sortedBy replyKey (fresh start batch)) = false := finished.symm
        have moved := between_step steady between
        rw [← cursor stopped] at moved
        have split : done ++ batch :: (later ++ rest) = done ++ [batch] ++ later ++ rest := by simp
        rw [split] at delivers steady
        obtain ⟨callsLater, overLater, cursorLater⟩ :=
          ih delivers steady moved (by rw [List.length_append, List.length_singleton]; omega) ran
        rw [stopped]
        refine ⟨?_, by simpa using overLater, ?_⟩
        · rw [callsLater, calls, List.append_assoc]
          rfl
        · intro open_
          have behind := cursorLater (by simpa using open_)
          rwa [List.append_assoc] at behind

/-! ## Segments -/

/-- Consecutive bounded segments over one thread, each resumed with the cursor the one before
it returned, until one does not end by its budget. -/
def monitor (contracted : ContractedSubtask) (read : Reader) (interval : Nat) :
    Option String → Nat → List Nat → List Call
  | _, _, [] => []
  | cursor, offset, maxPolls :: later =>
    let segment := boundedLoop contracted (fun poll => read (offset + poll)) cursor maxPolls interval
    match segment.ended with
    | some (.ok outcome) =>
      if outcome.reason = .maxPolls then
        segment.calls ++ monitor contracted read interval outcome.lastSeenTs (offset + maxPolls) later
      else segment.calls
    | _ => segment.calls

/-- Inside the loop only a boundary ends a segment with an outcome. -/
theorem handleReplies_reason {poll : Nat} {s : Progress} {replies : List ThreadReply}
    {outcome : LoopOutcome} (finished : (handleReplies contracted poll s replies).2 = some (.ok outcome)) :
    outcome.reason = .boundary := by
  induction replies generalizing s with
  | nil => cases finished
  | cons r rest ih =>
    rw [handleReplies] at finished
    split at finished
    · cases finished
    · dsimp only at finished
      split at finished
      · cases finished
        rfl
      · exact ih finished

theorem pollLoop_reason {poll count : Nat} {s : Progress} {outcome : LoopOutcome}
    (finished : (pollLoop contracted read interval poll count s).2 = some (.ok outcome)) :
    outcome.reason = .boundary := by
  induction count generalizing poll s with
  | zero => cases finished
  | succ count ih =>
    rw [pollLoop] at finished
    split at finished
    · exact ih finished
    · next s' ended polled =>
      have here : (onePoll contracted read interval poll s).2 = some (.ok outcome) := by
        rw [polled]
        exact finished
      unfold onePoll at here
      dsimp only at here
      split at here
      · cases here
      · exact handleReplies_reason here

theorem checkArguments_of {cursor : Option String} {maxPolls : Option Nat} (some_ : ∀ n ∈ maxPolls, 1 ≤ n)
    (paced : 1 ≤ interval) (solid : ∀ ts ∈ cursor, strip ts ≠ "") :
    checkArguments cursor maxPolls interval = .ok () := by
  unfold checkArguments
  rw [ensure_of some_, ok_bind, ensure_of paced, ok_bind, ensure_of solid]

theorem monitor_due (paced : 1 ≤ interval) {segments : List Nat} (each : ∀ n ∈ segments, 1 ≤ n)
    (total : segments.sum = batches.length) (delivers : Delivers (done ++ batches) read)
    (steady : Steady start (done ++ batches)) {cursor : Option String}
    (between : Between start cursor done batches) :
    classified (monitor contracted read interval cursor done.length segments) =
      classifyThread contracted (due start batches) := by
  induction segments generalizing done batches cursor with
  | nil =>
    have empty : batches = [] := List.length_eq_zero_iff.mp total.symm
    rw [empty]
    rfl
  | cons maxPolls later ih =>
    rw [List.forall_mem_cons] at each
    rw [List.sum_cons] at total
    have split : batches = batches.take maxPolls ++ batches.drop maxPolls :=
      (List.take_append_drop _ _).symm
    have count : (batches.take maxPolls).length = maxPolls := by
      rw [List.length_take]
      omega
    generalize batches.take maxPolls = front at split count
    generalize batches.drop maxPolls = back at split
    subst split
    rw [← List.append_assoc] at delivers steady
    have valid := @checkArguments_of _ _ (some maxPolls) (by simpa using each.1) paced between.solid
    cases ran : pollLoop contracted (fun poll => read (done.length + poll)) interval 1 maxPolls
        { cursor := cursor } with
    | mk s ended =>
      rw [← count] at ran
      obtain ⟨calls, finished, further⟩ := pollLoop_due delivers steady between rfl ran
      rw [count] at ran
      rw [monitor, boundedLoop, valid]
      dsimp only
      rw [ran, due, List.flatMap_append, ← due, ← due, classifyThread_append]
      cases ended with
      | some e =>
        have stopped : stops contracted (due start front) = true := finished.symm
        rw [stopped, if_pos rfl, List.append_nil, ← show _ = classifyThread contracted (due start front) from calls]
        cases e with
        | error e => rfl
        | ok outcome =>
          have reason := pollLoop_reason (congrArg Prod.snd ran)
          dsimp only
          rw [reason]
          rfl
      | none =>
        have stopped : stops contracted (due start front) = false := finished.symm
        have resumed := ih each.2 (by rw [List.length_append] at total; omega) delivers steady
          (further stopped)
        rw [List.length_append, count] at resumed
        rw [stopped, if_neg Bool.false_ne_true, ← resumed,
          ← show _ = classifyThread contracted (due start front) from calls]
        exact classified_append _ _

/-! ## The whole thread -/

theorem due_perm (start : Option String) (batches : List (List ThreadReply)) :
    (due start batches).Perm (fresh start batches.flatten) := by
  induction batches with
  | nil => exact .refl _
  | cons batch rest ih =>
    have both : fresh start (batch ++ rest.flatten) = fresh start batch ++ fresh start rest.flatten :=
      List.filter_append ..
    rw [due_cons, List.flatten_cons, both]
    exact perm_sortedBy.append ih

theorem due_strict (steady : Steady start batches) :
    (due start batches).Pairwise fun a b => replyKey a < replyKey b := by
  unfold due
  rw [List.pairwise_flatMap]
  refine ⟨fun batch member => sortedBy_strict (steady.apart batch member), ?_⟩
  refine steady.inTurn.imp ?_
  intro earlier later before a first b second
  exact before a (mem_sortedBy.mp first) b (mem_sortedBy.mp second)

/-- What the polls are due is the thread by its keys. -/
theorem due_sorted (steady : Steady start batches) :
    due start batches = sortedBy replyKey (fresh start batches.flatten) := by
  have strict := due_strict steady
  have distinct : ((fresh start batches.flatten).map replyKey).Nodup :=
    ((due_perm start batches).map replyKey).nodup_iff.mp (distinct_of_strict strict)
  refine eq_of_strict strict (sortedBy_strict distinct) ?_
  intro r
  rw [mem_sortedBy, (due_perm start batches).mem_iff]

/-- The monitoring classified what is newer than its starting cursor, each reply once and by
its key, up to the one that ends it. -/
def ClassifiedOnce (contracted : ContractedSubtask) (read : Reader) (interval : Nat)
    (start : Option String) (batches : List (List ThreadReply)) (segments : List Nat) : Prop :=
  classified (monitor contracted read interval start 0 segments) =
    classifyThread contracted (sortedBy replyKey (fresh start batches.flatten)) ∧
  (sortedBy replyKey (fresh start batches.flatten)).Pairwise fun a b => replyKey a < replyKey b

theorem monitor_once (paced : 1 ≤ interval) {segments : List Nat} (each : ∀ n ∈ segments, 1 ≤ n)
    (total : segments.sum = batches.length) (delivers : Delivers batches read)
    (valid : ∀ ts ∈ start, strip ts ≠ "" ∧ Readable ts) (steady : Steady start batches) :
    ClassifiedOnce contracted read interval start batches segments := by
  unfold ClassifiedOnce
  rw [← due_sorted steady]
  refine ⟨?_, due_strict steady⟩
  refine @monitor_due _ _ _ _ [] _ paced _ each total delivers steady _ ⟨?_, ?_, ?_, fun _ _ => Iff.rfl⟩
  · exact fun ts member => (valid ts member).2
  · exact fun ts member => (valid ts member).1
  · intro r member
    cases member

/-! ## With and without a budget -/

theorem pollLoop_more {poll count more : Nat} {s s' : Progress} {e : Except Raised LoopOutcome}
    (ran : pollLoop contracted read interval poll count s = (s', some e)) (enough : count ≤ more) :
    pollLoop contracted read interval poll more s = (s', some e) := by
  induction count generalizing poll more s with
  | zero => cases ran
  | succ count ih =>
    cases more with
    | zero => cases Nat.not_succ_le_zero _ enough
    | succ more =>
      rw [pollLoop] at ran ⊢
      split at ran
      · exact ih ran (Nat.le_of_succ_le_succ enough)
      · exact ran

/-- The loops make the same calls, poll by poll, and where the unbounded one returns, every
budget that reaches that poll returns the same. -/
theorem loops_alike (contracted : ContractedSubtask) (read : Reader) (interval : Nat)
    (start : Option String) {polls : Nat} (some_ : 1 ≤ polls) :
    (unboundedLoop contracted read start interval polls).calls =
        (boundedLoop contracted read start polls interval).calls ∧
      ∀ e more, (unboundedLoop contracted read start interval polls).ended = some e → polls ≤ more →
        boundedLoop contracted read start more interval =
          ⟨(unboundedLoop contracted read start interval polls).calls, some e⟩ := by
  have checks : ∀ n, 1 ≤ n → checkArguments start (some n) interval = checkArguments start none interval := by
    intro n positive
    unfold checkArguments
    rw [ensure_of (show ∀ m ∈ some n, 1 ≤ m by simpa using positive),
      ensure_of (show ∀ m ∈ (none : Option Nat), 1 ≤ m by simp)]
  unfold unboundedLoop boundedLoop
  rw [checks polls some_]
  cases valid : checkArguments start none interval with
  | error e =>
    refine ⟨rfl, ?_⟩
    rintro _ more ⟨⟩ enough
    rw [checks more (le_trans some_ enough), valid]
  | ok u =>
    dsimp only
    cases ran : pollLoop contracted read interval 1 polls { cursor := start } with
    | mk s ended =>
      cases ended with
      | none => exact ⟨rfl, fun _ _ impossible => nomatch impossible⟩
      | some e =>
        refine ⟨rfl, ?_⟩
        rintro _ more ⟨⟩ enough
        rw [checks more (le_trans some_ enough), valid]
        dsimp only
        rw [pollLoop_more ran enough]

/-- Over a thread whose replies become visible in the order of distinct keys, segments that
resume each other classify every new reply once, in that order and up to the one that ends
the monitoring; the loops with and without a budget do the same. -/
theorem classified_once (contracted : ContractedSubtask) (read : Reader) (interval : Nat)
    (start : Option String) (batches : List (List ThreadReply)) (segments : List Nat)
    (paced : 1 ≤ interval) (each : ∀ n ∈ segments, 1 ≤ n) (total : segments.sum = batches.length)
    (delivers : Delivers batches read) (valid : ∀ ts ∈ start, strip ts ≠ "" ∧ Readable ts)
    (steady : Steady start batches) :
    ClassifiedOnce contracted read interval start batches segments ∧
      ∀ polls, 1 ≤ polls →
        (unboundedLoop contracted read start interval polls).calls =
            (boundedLoop contracted read start polls interval).calls ∧
          ∀ e more, (unboundedLoop contracted read start interval polls).ended = some e → polls ≤ more →
            boundedLoop contracted read start more interval =
              ⟨(unboundedLoop contracted read start interval polls).calls, some e⟩ :=
  ⟨monitor_once paced each total delivers valid steady,
    fun _ some_ => loops_alike contracted read interval start some_⟩

def task : ContractedSubtask where
  subtaskId := "s"
  objective := "build"
  allowedWork := ["edit"]
  expectedOutput := ["patch"]
  reportRequirement := ["evidence"]
  afterReport := .continue
  texts := by decide
  items := by decide
  planned := by decide

/-- A report of progress at a time. -/
def reported (ts : String) (timed : strip ts ≠ "") : ThreadReply where
  ts := ts
  payload := [("subtask_id", .str "s"), ("status", .str "RUNNING"), ("completed", .arr [.str "a"]),
    ("evidence", .arr [.str "e"]), ("next_action", .str "n"), ("after", .str "CONTINUE")]
  timed := timed

/-- A reader that returns all that is visible. -/
def whole (batches : List (List ThreadReply)) : Reader := fun poll _ => (batches.take poll).flatten

theorem delivers_whole (batches : List (List ThreadReply)) : Delivers batches (whole batches) :=
  ⟨fun _ _ _ member => member, fun _ _ _ member _ => member⟩

def inOrder : List (List ThreadReply) := [[reported "1.5" (by decide)], [reported "2.0" (by decide)]]

theorem steady_inOrder : Steady none inOrder where
  readable := by
    simp only [inOrder, List.flatten_cons, List.flatten_nil, List.append_nil, List.singleton_append,
      List.forall_mem_cons]
    exact ⟨⟨_, rfl⟩, ⟨_, rfl⟩, List.forall_mem_nil _⟩
  apart := by decide
  inTurn := by decide

theorem classified_twice_resumed :
    ClassifiedOnce task (whole inOrder) 60 none inOrder [1, 1] :=
  (classified_once task (whole inOrder) 60 none inOrder [1, 1] (by decide) (by decide) rfl
    (delivers_whole inOrder) (fun _ impossible => (nomatch impossible)) steady_inOrder).1

/-- An older reply that becomes visible later. -/
def late : List (List ThreadReply) := [[reported "2.0" (by decide)], [reported "1.5" (by decide)]]

/-- One instant written in two ways. -/
def sameInstant : List (List ThreadReply) :=
  [[reported "1.5" (by decide)], [reported "1.500000" (by decide)]]

theorem missed (batches : List (List ThreadReply)) (member : batches ∈ [late, sameInstant]) :
    (batches.flatten.map (·.ts)).Nodup ∧ Delivers batches (whole batches) ∧
      ¬ ClassifiedOnce task (whole batches) 60 none batches [2] := by
  have differs : ∀ batches ∈ [late, sameInstant], (batches.flatten.map (·.ts)).Nodup ∧
      ¬ classified (monitor task (whole batches) 60 none 0 [2]) =
        classifyThread task (sortedBy replyKey (fresh none batches.flatten)) := by
    decide
  obtain ⟨distinct, differs⟩ := differs batches member
  exact ⟨distinct, delivers_whole batches, fun once => differs once.1⟩

/-- A reply behind the cursor, or level with it, is never classified. -/
theorem behind_missed :
    ((late.flatten.map (·.ts)).Nodup ∧ Delivers late (whole late) ∧
      ¬ ClassifiedOnce task (whole late) 60 none late [2]) ∧
    (sameInstant.flatten.map (·.ts)).Nodup ∧ Delivers sameInstant (whole sameInstant) ∧
      ¬ ClassifiedOnce task (whole sameInstant) 60 none sameInstant [2] :=
  ⟨missed late List.mem_cons_self, missed sameInstant (List.mem_cons_of_mem _ List.mem_cons_self)⟩

end DwSuperApps.Guarantees.ReplyMonitoring
