import Mathlib.Data.List.Nodup
import DwSuperApps.Lib.Runs
import DwSuperApps.Source.ExternalAction

/-!
# External actions are settled once

Any number of connections execute their SQL statements in any order, each connection may
end at any point. `finalize` checks the state in its `SELECT` and updates without looking
at it again.

* `step_statement`: what one step does to the database, once for every relation of rows;
* `confirmed_sound`: in every run a confirmed action succeeded with its own readback;
* `settled_once`: where every `UPDATE` still finds its action pending, an action that left
  the pending state keeps its row, and `finalize` returns once for each action.
-/
namespace DwSuperApps.Guarantees.ActionFinality

open DwSuperApps.Lib DwSuperApps.Lib.Runs DwSuperApps.Lib.Transactions
open DwSuperApps.Source.ExternalAction

/-! ## Single steps -/

/-- The connection an action is of. -/
def Action.connection : Action → Nat
  | .call c _ => c
  | .advance c => c
  | .close c => c

/-- The writes of a step are in the relation. -/
structure Writes (R : Option Row → Option Row → Prop) (w : World) (a : Action) : Prop where
  record : ∀ intentPayload now, R none (some (pendingRow intentPayload now))
  finalize : ∀ c key result now row, a = .advance c → w.phase c = .finalizeUpdate key result now row →
    ∀ v r, w.db.acquire c = some v → v.table key = some r →
      R (some r) (some (r.finalized (newState row.intentPayload result) result now))

theorem advance_statement {R : Option Row → Option Row → Prop} {w : World} {c : Nat}
    (writes : Writes R w (.advance c)) : Statement R c w.db (w.advance c).db := by
  unfold World.advance
  cases phase : w.phase c with
  | idle => exact .none
  | recordBegin key intentPayload now => exact .beginDeferred
  | recordInsert key intentPayload now =>
    have insert : Statement R c w.db (w.db.insert c key (pendingRow intentPayload now)).2 :=
      .insert _ _ (writes.record _ _)
    dsimp only
    split
    all_goals
      next made =>
        rw [made] at insert
        exact insert
  | recordCommit key intentPayload now => exact .commit
  | finalizeSelect key result now =>
    dsimp only
    split
    · exact .select
    · split
      · exact .select
      · exact .select
  | finalizeBegin key result now row => exact .beginDeferred
  | finalizeUpdate key result now row =>
    have update : Statement R c w.db (w.db.update c key
        (·.finalized (newState row.intentPayload result) result now)).2 :=
      .update _ _ (writes.finalize c key result now row rfl phase)
    dsimp only
    split
    all_goals
      next made =>
        rw [made] at update
        exact update
  | finalizeCommit key result now row => exact .commit
  | loadSelect key => exact .select

/-- A step executes one statement of its connection, or ends its transaction. -/
theorem step_statement {R : Option Row → Option Row → Prop} {w : World} {a : Action}
    (writes : Writes R w a) :
    Statement R (Action.connection a) w.db (step w a).db ∨
      ∃ c, a = .close c ∧ (step w a).db = w.db.rollback c := by
  cases a with
  | call c call =>
    refine .inl ?_
    dsimp only [step]
    split
    · exact .none
    · exact .none
  | advance c => exact .inl (advance_statement writes)
  | close c => exact .inr ⟨c, rfl, rfl⟩

section Relation
variable {R : Option Row → Option Row → Prop} {w : World} {a : Action}
variable (refl : ∀ a, R a a) (trans : ∀ {a b c}, R a b → R b c → R a c)
include refl

include trans in
theorem step_steady (writes : Writes R w a) (steady : Steady R w.db) : Steady R (step w a).db := by
  rcases step_statement writes with made | ⟨c, -, same⟩
  · exact made.steady refl trans steady
  · rw [same]
    exact steady.rollback

theorem step_committed (writes : Writes R w a) (steady : Steady R w.db) (key : Key) :
    R (w.db.committed key) ((step w a).db.committed key) := by
  rcases step_statement writes with made | ⟨c, -, same⟩
  · exact made.committed refl steady key
  · rw [same]
    exact refl _

theorem step_latest (writes : Writes R w a) (steady : Steady R w.db) {d : Nat} (open_ : a ≠ .close d)
    (key : Key) : R (w.db.latest d key) ((step w a).db.latest d key) := by
  rcases step_statement writes with made | ⟨c, rfl, same⟩
  · exact made.latest refl steady key
  · have apart : d ≠ c := fun same => open_ (same ▸ rfl)
    rw [same, Database.latest_rollback apart]
    exact refl _

end Relation

/-! ## Turns of a connection -/

/-- The row a connection has read and is about to update. -/
def reading : Phase → Option (Key × Row)
  | .finalizeBegin key _ _ row => some (key, row)
  | .finalizeUpdate key _ _ row => some (key, row)
  | _ => none

/-- The action a call has finalized. -/
def finalizedKey (answered : Answered) : Option Key :=
  match answered.call, answered.answer with
  | .finalize key _ _, .ok _ => some key
  | _, _ => none

def finalizedKeys (w : World) : List Key := w.answers.filterMap finalizedKey

/-- What a step makes of the phase of its connection and of the answers. -/
structure Turn (w : World) (a : Action) (next : Phase) (added : List Answered) : Prop where
  reads : ∀ key row, reading next = some (key, row) →
    reading (w.phase (Action.connection a)) = some (key, row) ∨
      w.db.view (Action.connection a) key = some row
  commits : ∀ key result now row, next = .finalizeCommit key result now row →
    a = .advance (Action.connection a) ∧
      w.phase (Action.connection a) = .finalizeUpdate key result now row ∧
      (∃ v, w.db.acquire (Action.connection a) = some v) ∧
      (step w a).db = (w.db.update (Action.connection a) key
        (·.finalized (newState row.intentPayload result) result now)).2
  finalizes : added.filterMap finalizedKey = [] ∨ ∃ key result now row,
    w.phase (Action.connection a) = .finalizeCommit key result now row ∧
      added.filterMap finalizedKey = [key] ∧ (step w a).db = w.db.commit (Action.connection a)

theorem Turn.quiet {w : World} {a : Action} {next : Phase} {added : List Answered}
    (unread : reading next = none)
    (uncommitted : ∀ key result now row, next ≠ .finalizeCommit key result now row)
    (unsettled : added.filterMap finalizedKey = []) : Turn w a next added where
  reads key row found := by
    rw [unread] at found
    cases found
  commits key result now row same := absurd same (uncommitted key result now row)
  finalizes := .inl unsettled

/-- The world after a step, as far as phases and answers go. -/
def Turns (w : World) (a : Action) : Prop :=
  step w a = w ∨ ∃ next added, (step w a).phase = Function.update w.phase (Action.connection a) next ∧
    (step w a).answers = w.answers ++ added ∧ Turn w a next added

theorem turns_proceed {w : World} {a : Action} {db : Database Nat Key Row} {next : Phase}
    (same : step w a = w.proceed (Action.connection a) db next) (turn : Turn w a next []) :
    Turns w a := by
  refine .inr ⟨next, [], ?_, ?_, turn⟩
  · rw [same]
    rfl
  · rw [same]
    exact (List.append_nil _).symm

theorem turns_finish {w : World} {a : Action} {db : Database Nat Key Row} {call : Call}
    {answer : Except String (Option ExternalActionRecord)}
    (same : step w a = w.finish (Action.connection a) db call answer)
    (turn : Turn w a .idle [⟨call, answer⟩]) : Turns w a := by
  refine .inr ⟨.idle, [⟨call, answer⟩], ?_, ?_, turn⟩
  · rw [same]
    rfl
  · rw [same]
    rfl

theorem step_turns (w : World) (a : Action) : Turns w a := by
  cases a with
  | call c call =>
    by_cases idle : w.phase c = .idle
    · have started : step w (.call c call) =
          { w with phase := Function.update w.phase c call.start } := if_pos idle
      refine .inr ⟨call.start, [], ?_, ?_, ?_⟩
      · rw [started]
        rfl
      · rw [started]
        exact (List.append_nil _).symm
      · cases call <;> exact .quiet rfl (fun _ _ _ _ => nofun) rfl
    · exact .inl (if_neg idle)
  | close c => exact .inr ⟨.idle, [], rfl, (List.append_nil _).symm, .quiet rfl (fun _ _ _ _ => nofun) rfl⟩
  | advance c =>
    have unfolded : step w (.advance c) = w.advance c := rfl
    cases phase : w.phase c with
    | idle =>
      refine .inl ?_
      rw [unfolded, World.advance, phase]
    | recordBegin key intentPayload now =>
      rw [World.advance, phase] at unfolded
      exact turns_proceed unfolded (.quiet rfl (fun _ _ _ _ => nofun) rfl)
    | recordInsert key intentPayload now =>
      rw [World.advance, phase] at unfolded
      dsimp only at unfolded
      split at unfolded
      · exact turns_finish unfolded (.quiet rfl (fun _ _ _ _ => nofun) rfl)
      · exact turns_finish unfolded (.quiet rfl (fun _ _ _ _ => nofun) rfl)
      · exact turns_proceed unfolded (.quiet rfl (fun _ _ _ _ => nofun) rfl)
    | recordCommit key intentPayload now =>
      rw [World.advance, phase] at unfolded
      exact turns_finish unfolded (.quiet rfl (fun _ _ _ _ => nofun) rfl)
    | finalizeSelect key result now =>
      rw [World.advance, phase] at unfolded
      dsimp only at unfolded
      split at unfolded
      · exact turns_finish unfolded (.quiet rfl (fun _ _ _ _ => nofun) rfl)
      · next row seen =>
        split at unfolded
        · exact turns_finish unfolded (.quiet rfl (fun _ _ _ _ => nofun) rfl)
        · refine turns_proceed unfolded ⟨?_, fun _ _ _ _ => nofun, .inl rfl⟩
          rintro _ _ ⟨rfl, rfl⟩
          exact .inr seen
    | finalizeBegin key result now row =>
      rw [World.advance, phase] at unfolded
      refine turns_proceed unfolded ⟨?_, fun _ _ _ _ => nofun, .inl rfl⟩
      rintro _ _ ⟨rfl, rfl⟩
      refine .inl ?_
      change reading (w.phase c) = _
      rw [phase]
      rfl
    | finalizeUpdate key result now row =>
      rw [World.advance, phase] at unfolded
      dsimp only at unfolded
      split at unfolded
      · exact turns_finish unfolded (.quiet rfl (fun _ _ _ _ => nofun) rfl)
      · next outcome db unlocked made =>
        refine turns_proceed unfolded ⟨fun _ _ => nofun, ?_, .inl rfl⟩
        rintro _ _ _ _ ⟨rfl, rfl, rfl, rfl⟩
        refine ⟨rfl, phase, ?_, ?_⟩
        · cases acquired : w.db.acquire c with
          | some v => exact ⟨v, acquired⟩
          | none =>
            rw [Database.update_locked acquired] at made
            exact absurd (congrArg Prod.fst made).symm unlocked
        · rw [unfolded]
          exact (congrArg Prod.snd made).symm
    | finalizeCommit key result now row =>
      rw [World.advance, phase] at unfolded
      refine turns_finish unfolded ⟨fun _ _ => nofun, fun _ _ _ _ => nofun, .inr ?_⟩
      refine ⟨key, result, now, row, phase, rfl, ?_⟩
      rw [unfolded]
      rfl
    | loadSelect key =>
      rw [World.advance, phase] at unfolded
      exact turns_finish unfolded (.quiet rfl (fun _ _ _ _ => nofun) rfl)

/-! ## Rows that were read -/

/-- A row stays, with its intent. -/
def SameIntent (a b : Option Row) : Prop :=
  ∀ row, a = some row → ∃ later, b = some later ∧ later.intentPayload = row.intentPayload

theorem sameIntent_refl (a : Option Row) : SameIntent a a := fun row present => ⟨row, present, rfl⟩

theorem sameIntent_trans {a b c : Option Row} (first : SameIntent a b) (second : SameIntent b c) :
    SameIntent a c := by
  intro row present
  obtain ⟨later, found, same⟩ := first row present
  obtain ⟨last, found, still⟩ := second later found
  exact ⟨last, found, still.trans same⟩

theorem writes_sameIntent (w : World) (a : Action) : Writes SameIntent w a where
  record _ _ _ impossible := nomatch impossible
  finalize _ _ _ _ _ _ _ _ r _ _ := by
    rintro _ ⟨rfl⟩
    exact ⟨_, rfl, rfl⟩

/-- Rows keep their intents, also those a connection is about to update. -/
structure Kept (w : World) : Prop where
  steady : Steady SameIntent w.db
  reads : ∀ c key row, reading (w.phase c) = some (key, row) →
    SameIntent (some row) (w.db.latest c key)

theorem kept_start : Kept {} := ⟨steady_start, fun _ _ _ impossible => nomatch impossible⟩

/-- A connection that is about to update a row was so before, or has just read it. -/
theorem step_reading {w : World} {a : Action} {c : Nat} {key : Key} {row : Row}
    (after : reading ((step w a).phase c) = some (key, row)) :
    a ≠ .close c ∧ (reading (w.phase c) = some (key, row) ∨ w.db.view c key = some row) := by
  have open_ : a ≠ .close c := by
    rintro rfl
    have idle : (step w (.close c)).phase c = .idle := Function.update_self ..
    rw [idle] at after
    cases after
  refine ⟨open_, ?_⟩
  rcases step_turns w a with same | ⟨next, added, phase, -, turn⟩
  · rw [same] at after
    exact .inl after
  · rw [phase] at after
    by_cases here : c = Action.connection a
    · rw [here, Function.update_self] at after
      rw [here]
      exact turn.reads key row after
    · rw [Function.update_of_ne here] at after
      exact .inl after

theorem step_kept (w : World) (a : Action) (kept : Kept w) : Kept (step w a) where
  steady := step_steady sameIntent_refl sameIntent_trans (writes_sameIntent w a) kept.steady
  reads := by
    intro c key row after
    obtain ⟨open_, before⟩ := step_reading after
    have moved := step_latest sameIntent_refl (writes_sameIntent w a) kept.steady open_ key
    rcases before with before | seen
    · exact sameIntent_trans (kept.reads c key row before) moved
    · have viewed : SameIntent (w.db.view c key) (w.db.latest c key) :=
        kept.steady.view sameIntent_refl
      rw [seen] at viewed
      exact sameIntent_trans viewed moved

/-! ## Confirmed rows -/

/-- The action succeeded and its readback is canonically its intent. -/
def Matched (row : Row) : Prop :=
  (∃ payload, row.resultPayload = some payload ∧ payload.success = true) ∧
    ∃ readback, row.readbackPayload = some readback ∧
      row.intentPayload.canonicalText = readback.canonicalText

def Sound (row : Row) : Prop := row.state = .confirmed → Matched row

theorem newState_confirmed {intent : Json} {result : ExternalActionResult}
    (confirmed : newState intent result = .confirmed) :
    result.success = true ∧ readbackMatches intent result.readback = true := by
  unfold newState at confirmed
  split at confirmed
  · cases confirmed
  · next succeeded =>
    split at confirmed
    · cases confirmed
    · next matched => exact ⟨by simpa using succeeded, by simpa using matched⟩

theorem newState_final (intent : Json) (result : ExternalActionResult) :
    newState intent result ≠ .pending := by
  unfold newState
  split
  · decide
  · split
    · decide
    · decide

theorem finalized_sound {read row : Row} {result : ExternalActionResult} {now : String}
    (same : row.intentPayload = read.intentPayload) :
    Sound (row.finalized (newState read.intentPayload result) result now) := by
  intro confirmed
  obtain ⟨succeeded, matched⟩ := newState_confirmed confirmed
  refine ⟨⟨_, rfl, succeeded⟩, ?_⟩
  cases given : result.readback with
  | none =>
    rw [given] at matched
    cases matched
  | some readback =>
    rw [given] at matched
    refine ⟨readback, given, ?_⟩
    change row.intentPayload.canonicalText = _
    rw [same]
    exact of_decide_eq_true matched

/-- A row stays as it is or is replaced by a sound one. -/
def SoundChange (a b : Option Row) : Prop := a = b ∨ ∀ row, b = some row → Sound row

theorem soundChange_refl (a : Option Row) : SoundChange a a := .inl rfl

theorem soundChange_trans {a b c : Option Row} (first : SoundChange a b) (second : SoundChange b c) :
    SoundChange a c := by
  rcases second with rfl | sound
  · exact first
  · exact .inr sound

/-- What is updated has the intent of the row that was read. -/
theorem writes_sound {w : World} (kept : Kept w) (a : Action) : Writes SoundChange w a where
  record intentPayload now := by
    refine .inr ?_
    rintro _ ⟨rfl⟩ impossible
    cases impossible
  finalize c key result now row acts phase v r acquired present := by
    have read : SameIntent (some row) (w.db.latest c key) :=
      kept.reads c key row (by rw [phase]; rfl)
    rw [← (Database.acquire_some acquired).2.1, present] at read
    obtain ⟨_, ⟨rfl⟩, same⟩ := read row rfl
    refine .inr ?_
    rintro _ ⟨rfl⟩
    exact finalized_sound same

/-- Every row of the table is sound. -/
structure AllSound (w : World) : Prop where
  kept : Kept w
  steady : Steady SoundChange w.db
  rows : ∀ key row, w.db.committed key = some row → Sound row

theorem step_sound (w : World) (a : Action) (sound : AllSound w) : AllSound (step w a) where
  kept := step_kept w a sound.kept
  steady := step_steady soundChange_refl soundChange_trans (writes_sound sound.kept a) sound.steady
  rows := by
    intro key row present
    rcases step_committed soundChange_refl (writes_sound sound.kept a) sound.steady key with
      same | changed
    · exact sound.rows key row (same.trans present)
    · exact changed row present

theorem confirmed_sound (actions : List Action) : AllSound (run step {} actions) :=
  run_invariant_of_forall step_sound actions
    ⟨kept_start, steady_start, fun _ _ impossible => nomatch impossible⟩

/-! ## Settled actions -/

/-- A row that is not pending stays. -/
def FinalStays (a b : Option Row) : Prop := ∀ row, a = some row → row.state ≠ .pending → b = some row

theorem finalStays_refl (a : Option Row) : FinalStays a a := fun _ present _ => present

theorem finalStays_trans {a b c : Option Row} (first : FinalStays a b) (second : FinalStays b c) :
    FinalStays a c :=
  fun row present final => second row (first row present final) final

/-- The row an `UPDATE` of the action changes. -/
def updatedRow (w : World) : Action → Option Row
  | .advance c =>
    match w.phase c with
    | .finalizeUpdate key _ _ _ => (w.db.acquire c).bind fun v => v.table key
    | _ => none
  | _ => none

/-- An `UPDATE` finds its action still pending. -/
def Guarded (w : World) (a : Action) : Prop := ∀ row ∈ updatedRow w a, row.state = .pending

theorem guarded_update {w : World} {c : Nat} {key : Key} {result : ExternalActionResult}
    {now : String} {row r : Row} {v : Writer Nat Key Row} (guarded : Guarded w (.advance c))
    (phase : w.phase c = .finalizeUpdate key result now row) (acquired : w.db.acquire c = some v)
    (present : v.table key = some r) : r.state = .pending := by
  apply guarded
  simp only [updatedRow, phase, acquired, Option.bind_some, present]
  rfl

theorem writes_final {w : World} {a : Action} (guarded : Guarded w a) : Writes FinalStays w a where
  record _ _ _ impossible := nomatch impossible
  finalize c key result now row acts phase v r acquired present := by
    rintro _ ⟨rfl⟩ final
    subst acts
    exact absurd (guarded_update guarded phase acquired present) final

/-- A connection that is about to commit an update holds the row it settles, which is
pending in the table so far. -/
def Committing (db : Database Nat Key Row) (c : Nat) (key : Key) : Prop :=
  ∃ v, db.writer = some v ∧ v.connection = c ∧
    (∃ r, v.table key = some r ∧ r.state ≠ .pending) ∧
    ∀ r, db.committed key = some r → r.state = .pending

/-- What was finalized is final in the table, and was finalized once. -/
structure Once (w : World) : Prop where
  kept : Kept w
  steady : Steady FinalStays w.db
  committing : ∀ c key result now row, w.phase c = .finalizeCommit key result now row →
    Committing w.db c key
  nodup : (finalizedKeys w).Nodup
  settled : ∀ key ∈ finalizedKeys w, ∃ row, w.db.committed key = some row ∧ row.state ≠ .pending

theorem once_start : Once {} where
  kept := kept_start
  steady := steady_start
  committing _ _ _ _ _ impossible := nomatch impossible
  nodup := List.nodup_nil
  settled _ impossible := nomatch impossible

/-- Nothing another connection does reaches a connection that is about to commit. -/
theorem committing_keeps {w : World} {a : Action} {c : Nat} {key : Key}
    (committing : Committing w.db c key) (apart : Action.connection a ≠ c) :
    Committing (step w a).db c key := by
  obtain ⟨v, held, here, settles, pending⟩ := committing
  have kept : (step w a).db.writer = some v ∧ (step w a).db.committed = w.db.committed := by
    rcases step_statement (writes_sameIntent w a) with made | ⟨d, rfl, same⟩
    · exact made.locked held (here ▸ Ne.symm apart)
    · rw [same]
      exact ⟨Database.rollback_locked held (here ▸ Ne.symm apart), rfl⟩
  refine ⟨v, kept.1, here, settles, ?_⟩
  rw [kept.2]
  exact pending

/-- A guarded update leaves its connection about to commit. -/
theorem update_committing {w : World} {c : Nat} {key : Key} {result : ExternalActionResult}
    {now : String} {row : Row} {v : Writer Nat Key Row} (once : Once w)
    (guarded : Guarded w (.advance c)) (phase : w.phase c = .finalizeUpdate key result now row)
    (acquired : w.db.acquire c = some v) :
    Committing (w.db.update c key
      (·.finalized (newState row.intentPayload result) result now)).2 c key := by
  obtain ⟨here, table, -⟩ := Database.acquire_some acquired
  -- the row that was read is still there
  have read : SameIntent (some row) (w.db.latest c key) :=
    once.kept.reads c key row (by rw [phase]; rfl)
  obtain ⟨r, present, -⟩ := read row rfl
  rw [← table] at present
  rw [Database.update_present acquired present]
  refine ⟨_, rfl, here, ⟨_, Function.update_self .., newState_final _ _⟩, ?_⟩
  intro committed found
  by_contra final
  have stays : FinalStays (w.db.committed key) (w.db.latest c key) :=
    once.steady.latest finalStays_refl
  have same := stays committed found final
  rw [← table, present] at same
  cases same
  exact final (guarded_update guarded phase acquired present)

/-- What a connection that is about to commit makes of its action. -/
theorem commit_settles {db : Database Nat Key Row} {c : Nat} {key : Key}
    (committing : Committing db c key) :
    ∃ row, (db.commit c).committed key = some row ∧ row.state ≠ .pending := by
  obtain ⟨v, held, here, ⟨r, present, final⟩, -⟩ := committing
  refine ⟨r, ?_, final⟩
  rw [Database.commit_committed, Database.latest_own held here]
  exact present

theorem step_once (w : World) (a : Action) (once : Once w) (guarded : Guarded w a) :
    Once (step w a) := by
  have writes := writes_final guarded
  have stays : ∀ key, (∃ row, w.db.committed key = some row ∧ row.state ≠ .pending) →
      ∃ row, (step w a).db.committed key = some row ∧ row.state ≠ .pending := by
    rintro key ⟨row, present, final⟩
    exact ⟨row, step_committed finalStays_refl writes once.steady key row present final, final⟩
  refine ⟨step_kept w a once.kept, step_steady finalStays_refl finalStays_trans writes once.steady,
    ?_, ?_, ?_⟩
  · intro c key result now row after
    rcases step_turns w a with same | ⟨next, added, phase, -, turn⟩
    · rw [same] at after ⊢
      exact once.committing c key result now row after
    · rw [phase] at after
      by_cases here : c = Action.connection a
      · rw [here, Function.update_self] at after
        obtain ⟨acts, before, ⟨v, acquired⟩, made⟩ := turn.commits key result now row after
        rw [made, ← here]
        rw [acts, ← here] at guarded
        rw [← here] at before acquired
        exact update_committing once guarded before acquired
      · rw [Function.update_of_ne here] at after
        exact committing_keeps (once.committing c key result now row after) (Ne.symm here)
  · rcases step_turns w a with same | ⟨next, added, -, answers, turn⟩
    · rw [same]
      exact once.nodup
    · have grown : finalizedKeys (step w a) = finalizedKeys w ++ added.filterMap finalizedKey := by
        rw [finalizedKeys, answers, List.filterMap_append]
        rfl
      rcases turn.finalizes with none | ⟨key, result, now, row, phase, one, -⟩
      · rw [grown, none, List.append_nil]
        exact once.nodup
      · -- the action was still pending in the table, so no call has finalized it
        obtain ⟨v, -, -, -, pending⟩ := once.committing _ key result now row phase
        rw [grown, one]
        refine once.nodup.append (List.nodup_singleton _) ?_
        rw [List.disjoint_singleton]
        intro earlier
        obtain ⟨r, present, final⟩ := once.settled key earlier
        exact final (pending r present)
  · intro key member
    rcases step_turns w a with same | ⟨next, added, -, answers, turn⟩
    · rw [same] at member ⊢
      exact once.settled key member
    · rw [finalizedKeys, answers, List.filterMap_append] at member
      rcases List.mem_append.mp member with earlier | new
      · exact stays key (once.settled key earlier)
      · rcases turn.finalizes with none | ⟨settled, result, now, row, phase, one, made⟩
        · rw [none] at new
          cases new
        · rw [one] at new
          rw [List.mem_singleton.mp new, made]
          exact commit_settles (once.committing _ settled result now row phase)

/-- In a run whose updates find their actions pending, an action that has left the pending
state keeps its row, no two calls finalize one action, and a confirmed action succeeded
with its own readback. -/
theorem settled_once {actions : List Action} (guarded : Along step Guarded {} actions) :
    (∀ xs ys, actions = xs ++ ys → ∀ key row, (run step {} xs).db.committed key = some row →
      row.state ≠ .pending → (run step {} actions).db.committed key = some row) ∧
    (finalizedKeys (run step {} actions)).Nodup ∧
    ∀ key row, (run step {} actions).db.committed key = some row → row.state = .confirmed →
      Matched row := by
  have invariant : ∀ {xs}, Along step Guarded {} xs → Once (run step {} xs) :=
    fun along => run_invariant step_once once_start along
  refine ⟨?_, (invariant guarded).nodup, fun key row => (confirmed_sound actions).rows key row⟩
  rintro xs ys rfl key row present final
  obtain ⟨front, back⟩ := (along_append _ _ _ xs ys).mp guarded
  rw [run_append]
  -- from the end of the first part on, the row stays at each step
  have stays : Once (run step (run step {} xs) ys) ∧
      (run step (run step {} xs) ys).db.committed key = some row := by
    refine @run_invariant _ _ step _ (fun w => Once w ∧ w.db.committed key = some row) ?_ _ _
      ⟨invariant front, present⟩ back
    rintro w a ⟨once, found⟩ admitted
    exact ⟨step_once w a once admitted, step_committed finalStays_refl (writes_final admitted)
      once.steady key row found final⟩
  exact stays.2

/-! ## Two connections -/

def deployKey : Key := ⟨"run-1", "ACTION-1"⟩

def succeeded : ExternalActionResult := { success := true, readback := some (.obj []) }

def failed : ExternalActionResult := { success := false }

/-- The statements of one connection up to the end of a call. -/
def statements (c : Nat) (n : Nat) : List Action := List.replicate n (.advance c)

def recorded : List Action := .call 0 (.record deployKey (.obj []) "t0") :: statements 0 3

/-- Both connections select before either updates. -/
def confirmedFirst : List Action :=
  recorded ++ [.call 0 (.finalize deployKey succeeded "t1"), .call 1 (.finalize deployKey failed "t2")] ++
    statements 0 1 ++ statements 1 1 ++ statements 0 3

/-- One connection finalizes, and the other one after it. -/
def oneAfterAnother : List Action :=
  recorded ++ .call 0 (.finalize deployKey succeeded "t1") :: statements 0 4 ++
    .call 1 (.finalize deployKey failed "t2") :: statements 1 4

instance (w : World) (a : Action) : Decidable (Guarded w a) := by unfold Guarded; infer_instance

theorem settled_once_in_turn : (finalizedKeys (run step {} oneAfterAnother)).Nodup :=
  (settled_once (by decide)).2.1

/-- The state of an action in the table. -/
def stateOf (w : World) (key : Key) : Option ExternalActionState :=
  (w.db.committed key).map (·.state)

theorem confirmedFirst_states :
    stateOf (run step {} confirmedFirst) deployKey = some .confirmed ∧
      stateOf (run step {} (confirmedFirst ++ statements 1 3)) deployKey = some .failed := by
  decide

/-- A confirmed action becomes a failed one. -/
theorem confirmed_then_failed :
    ¬ ∀ (actions xs ys : List Action), actions = xs ++ ys → ∀ key row,
      (run step {} xs).db.committed key = some row → row.state ≠ .pending →
        (run step {} actions).db.committed key = some row := by
  intro stays
  obtain ⟨confirmed, failed⟩ := confirmedFirst_states
  obtain ⟨row, present, state⟩ := Option.map_eq_some_iff.mp confirmed
  have later := stays _ confirmedFirst (statements 1 3) rfl deployKey row present
    (by rw [state]; decide)
  rw [stateOf, later, Option.map_some, state] at failed
  cases failed

end DwSuperApps.Guarantees.ActionFinality
