import Mathlib

/-!
# Deferred transactions over one table

Connections to a table with a key, in a database with a write-ahead log. A transaction
that reads keeps the snapshot of its first read; one connection at a time may write;
a reader whose snapshot is out of date cannot become the writer. Outside a transaction
each read sees what is committed.

`Steady` is the invariant: snapshots stand in a relation of rows to what is committed,
and what is committed to the table of the writer. Each statement keeps it where the row
it writes is in the relation to the row it replaces, and the committed table moves along
the relation.
-/
namespace DwSuperApps.Lib.Transactions

universe u v w
variable {ι : Type u} {κ : Type v} {ρ : Type w} [DecidableEq ι]

abbrev Table (κ : Type v) (ρ : Type w) := κ → Option ρ

/-- The transaction of a connection, unless it is the writer. -/
inductive Tx (κ : Type v) (ρ : Type w) where
  | autocommit
  | begun
  | reading (seen : Table κ ρ) (version : Nat)

/-- The connection that may write, and the table as it sees it. -/
structure Writer (ι : Type u) (κ : Type v) (ρ : Type w) where
  connection : ι
  table : Table κ ρ
  written : Bool := false

structure Database (ι : Type u) (κ : Type v) (ρ : Type w) where
  committed : Table κ ρ := fun _ => none
  version : Nat := 0
  tx : ι → Tx κ ρ := fun _ => .autocommit
  writer : Option (Writer ι κ ρ) := none

/-- What a write statement came to. -/
inductive Outcome where
  | locked | duplicate | done
  deriving DecidableEq

/-- The writer with one row set. -/
def Writer.set [DecidableEq κ] (w : Writer ι κ ρ) (k : κ) (row : ρ) : Writer ι κ ρ :=
  { w with table := Function.update w.table k (some row), written := true }

namespace Database

/-- The write transaction of a connection. -/
def writes (db : Database ι κ ρ) (c : ι) : Option (Writer ι κ ρ) :=
  db.writer.filter (·.connection = c)

/-- The table a connection reads. -/
def view (db : Database ι κ ρ) (c : ι) : Table κ ρ :=
  match db.writes c, db.tx c with
  | some w, _ => w.table
  | none, .reading seen _ => seen
  | none, _ => db.committed

/-- The database after a read: a transaction keeps what it sees. -/
def select (db : Database ι κ ρ) (c : ι) : Database ι κ ρ :=
  match db.writes c, db.tx c with
  | none, .begun => { db with tx := Function.update db.tx c (.reading db.committed db.version) }
  | _, _ => db

/-- `BEGIN`, outside a transaction. -/
def beginDeferred (db : Database ι κ ρ) (c : ι) : Database ι κ ρ :=
  match db.writes c, db.tx c with
  | none, .autocommit => { db with tx := Function.update db.tx c .begun }
  | _, _ => db

/-- The writer a connection is or becomes; `none` where the database is locked. -/
def acquire (db : Database ι κ ρ) (c : ι) : Option (Writer ι κ ρ) :=
  match db.writer, db.tx c with
  | some w, _ => if w.connection = c then some w else none
  | none, .reading _ version =>
    if version = db.version then some { connection := c, table := db.committed } else none
  | none, _ => some { connection := c, table := db.committed }

/-- `INSERT` of a row under a key no row may have. -/
def insert [DecidableEq κ] (db : Database ι κ ρ) (c : ι) (k : κ) (row : ρ) : Outcome × Database ι κ ρ :=
  match db.acquire c with
  | none => (.locked, db)
  | some w =>
    match w.table k with
    | some _ => (.duplicate, { db with writer := some w })
    | none => (.done, { db with writer := some (w.set k row) })

/-- `UPDATE` of the row under a key, where there is one. -/
def update [DecidableEq κ] (db : Database ι κ ρ) (c : ι) (k : κ) (change : ρ → ρ) : Outcome × Database ι κ ρ :=
  match db.acquire c with
  | none => (.locked, db)
  | some w =>
    match w.table k with
    | some row => (.done, { db with writer := some (w.set k (change row)) })
    | none => (.done, { db with writer := some w })

/-- `COMMIT`. -/
def commit (db : Database ι κ ρ) (c : ι) : Database ι κ ρ :=
  match db.writes c with
  | some w => {
      committed := w.table
      version := if w.written then db.version + 1 else db.version
      tx := Function.update db.tx c .autocommit
      writer := none }
  | none => { db with tx := Function.update db.tx c .autocommit }

/-- `ROLLBACK`, or the end of a connection. -/
def rollback (db : Database ι κ ρ) (c : ι) : Database ι κ ρ :=
  { db with
    tx := Function.update db.tx c .autocommit
    writer := db.writer.filter (·.connection ≠ c) }

/-- The table a connection writes to, or would write to. -/
def latest (db : Database ι κ ρ) (c : ι) : Table κ ρ :=
  ((db.writes c).map (·.table)).getD db.committed

variable {db : Database ι κ ρ} {c d : ι} {k : κ}

/-! ## The writer -/

theorem writes_eq {w : Writer ι κ ρ} : db.writes c = some w ↔ db.writer = some w ∧ w.connection = c := by
  simp [writes, Option.filter_eq_some_iff]

theorem writes_none_of {w : Writer ι κ ρ} (other : db.writer = some w) (apart : w.connection ≠ c) :
    db.writes c = none := by
  simp [writes, other, apart]

theorem latest_free (free : db.writer = none) : db.latest c = db.committed := by
  simp [latest, writes, free]

theorem latest_own {w : Writer ι κ ρ} (own : db.writer = some w) (here : w.connection = c) :
    db.latest c = w.table := by
  rw [latest, writes_eq.mpr ⟨own, here⟩]
  rfl

theorem latest_other {w : Writer ι κ ρ} (other : db.writer = some w) (apart : w.connection ≠ c) :
    db.latest c = db.committed := by
  rw [latest, writes_none_of other apart]
  rfl

/-- What is acquired belongs to the connection and has its latest table. -/
theorem acquire_some {w : Writer ι κ ρ} (acquired : db.acquire c = some w) :
    w.connection = c ∧ w.table = db.latest c ∧ ∀ v, db.writer = some v → v = w := by
  unfold acquire at acquired
  cases held : db.writer with
  | some v =>
    rw [held] at acquired
    dsimp only at acquired
    split at acquired
    · next here =>
      cases acquired
      refine ⟨here, (latest_own held here).symm, ?_⟩
      rintro _ ⟨rfl⟩
      rfl
    · cases acquired
  | none =>
    rw [held] at acquired
    have fresh : w = { connection := c, table := db.committed } := by
      split at acquired
      · next impossible => cases impossible
      · split at acquired
        · cases acquired
          rfl
        · cases acquired
      · cases acquired
        rfl
    rw [fresh]
    exact ⟨rfl, (latest_free held).symm, fun _ impossible => nomatch impossible⟩

/-- The latest tables once a connection has acquired the database. -/
theorem latest_hold {w v : Writer ι κ ρ} (acquired : db.acquire c = some w) (here : v.connection = c)
    (d : ι) : ({ db with writer := some v } : Database ι κ ρ).latest d =
      if d = c then v.table else db.latest d := by
  split
  · next same =>
    rw [same]
    exact latest_own rfl here
  · next apart =>
    rw [latest_other rfl (here ▸ Ne.symm apart)]
    obtain ⟨connection, -, only⟩ := acquire_some acquired
    cases held : db.writer with
    | none => rw [latest_free held]
    | some u =>
      rw [latest_other held]
      rw [only u held, connection]
      exact Ne.symm apart

/-! ## What stays committed -/

@[simp] theorem select_committed : (db.select c).committed = db.committed := by
  unfold select
  split <;> rfl

@[simp] theorem select_writer : (db.select c).writer = db.writer := by
  unfold select
  split <;> rfl

@[simp] theorem begin_committed : (db.beginDeferred c).committed = db.committed := by
  unfold beginDeferred
  split <;> rfl

@[simp] theorem begin_writer : (db.beginDeferred c).writer = db.writer := by
  unfold beginDeferred
  split <;> rfl

@[simp] theorem insert_committed [DecidableEq κ] {row : ρ} : (db.insert c k row).2.committed = db.committed := by
  unfold insert
  split
  · rfl
  · split <;> rfl

@[simp] theorem update_committed [DecidableEq κ] {change : ρ → ρ} :
    (db.update c k change).2.committed = db.committed := by
  unfold update
  split
  · rfl
  · split <;> rfl

theorem update_locked [DecidableEq κ] {change : ρ → ρ} (locked : db.acquire c = none) :
    db.update c k change = (.locked, db) := by
  unfold update
  rw [locked]

theorem update_present [DecidableEq κ] {w : Writer ι κ ρ} {row : ρ} {change : ρ → ρ}
    (acquired : db.acquire c = some w) (present : w.table k = some row) :
    db.update c k change = (.done, { db with writer := some (w.set k (change row)) }) := by
  unfold update
  rw [acquired]
  dsimp only
  rw [present]

@[simp] theorem rollback_committed : (db.rollback c).committed = db.committed := rfl

theorem commit_committed : (db.commit c).committed = db.latest c := by
  unfold commit latest
  split
  · next w held => rw [held]; rfl
  · next held => rw [held]; rfl

theorem latest_congr {other : Database ι κ ρ} (committed : other.committed = db.committed)
    (writer : other.writer = db.writer) : other.latest c = db.latest c := by
  unfold latest writes
  rw [committed, writer]

theorem rollback_locked {w : Writer ι κ ρ} (held : db.writer = some w) (apart : w.connection ≠ c) :
    (db.rollback c).writer = some w := by
  unfold rollback
  rw [held]
  simpa using apart

theorem latest_rollback (apart : d ≠ c) : (db.rollback c).latest d = db.latest d := by
  unfold latest writes rollback
  rw [Option.filter_filter]
  congr 3
  funext w
  by_cases here : w.connection = d
  · simp [here, apart]
  · simp [here]

end Database

/-! ## Rows that only move along a relation -/

section Steady
open Database
variable {R : Option ρ → Option ρ → Prop} {db : Database ι κ ρ} {c d : ι} {k : κ}

/-- Snapshots are related to what is committed, and that to the table of the writer. -/
structure Steady (R : Option ρ → Option ρ → Prop) (db : Database ι κ ρ) : Prop where
  snapshots : ∀ c seen version, db.tx c = .reading seen version → ∀ k, R (seen k) (db.committed k)
  writer : ∀ w, db.writer = some w → ∀ k, R (db.committed k) (w.table k)

omit [DecidableEq ι] in
theorem steady_start : Steady R ({} : Database ι κ ρ) :=
  ⟨fun _ _ _ impossible => (nomatch impossible), fun _ impossible => (nomatch impossible)⟩

variable (refl : ∀ a, R a a) (trans : ∀ {a b c}, R a b → R b c → R a c)
include refl

theorem Steady.latest (steady : Steady R db) : R (db.committed k) (db.latest c k) := by
  cases held : db.writer with
  | none =>
    rw [latest_free held]
    exact refl _
  | some w =>
    by_cases here : w.connection = c
    · rw [latest_own held here]
      exact steady.writer w held k
    · rw [latest_other held here]
      exact refl _

/-- A connection reads rows related to those it would write to. -/
theorem Steady.view (steady : Steady R db) : R (db.view c k) (db.latest c k) := by
  unfold Database.view
  cases held : db.writes c with
  | some w =>
    obtain ⟨own, here⟩ := writes_eq.mp held
    rw [latest_own own here]
    exact refl _
  | none =>
    have committed : db.latest c = db.committed := by
      rw [Database.latest, held]
      rfl
    rw [committed]
    cases reading : db.tx c with
    | reading seen version => exact steady.snapshots c seen version reading k
    | _ => exact refl _

theorem Steady.select (steady : Steady R db) : Steady R (db.select c) := by
  refine ⟨?_, ?_⟩
  · intro d seen version reading k
    rw [select_committed]
    unfold Database.select at reading
    split at reading
    · by_cases here : d = c
      · rw [here] at reading
        dsimp only at reading
        rw [Function.update_self] at reading
        cases reading
        exact refl _
      · dsimp only at reading
        rw [Function.update_of_ne here] at reading
        exact steady.snapshots d seen version reading k
    · exact steady.snapshots d seen version reading k
  · intro w held k
    rw [select_writer] at held
    rw [select_committed]
    exact steady.writer w held k

omit refl

/-- A transaction that is put in place of another one without reading keeps the rest. -/
theorem Steady.setTx (steady : Steady R db) {tx : Tx κ ρ}
    (unread : ∀ seen version, tx ≠ .reading seen version) :
    Steady R { db with tx := Function.update db.tx c tx } := by
  refine ⟨?_, steady.writer⟩
  intro d seen version reading k
  dsimp only at reading
  by_cases here : d = c
  · rw [here, Function.update_self] at reading
    exact absurd reading (unread seen version)
  · rw [Function.update_of_ne here] at reading
    exact steady.snapshots d seen version reading k

theorem Steady.beginDeferred (steady : Steady R db) : Steady R (db.beginDeferred c) := by
  unfold Database.beginDeferred
  split
  · exact steady.setTx fun _ _ impossible => nomatch impossible
  · exact steady

include refl trans

/-- The writer of a table the committed one is related to. -/
theorem Steady.hold (steady : Steady R db) {w v : Writer ι κ ρ} (acquired : db.acquire c = some w)
    (moves : ∀ k, R (w.table k) (v.table k)) : Steady R { db with writer := some v } := by
  obtain ⟨-, table, -⟩ := acquire_some acquired
  refine ⟨steady.snapshots, ?_⟩
  rintro _ ⟨rfl⟩ k
  have first : R (db.committed k) (db.latest c k) := steady.latest refl
  exact trans first (table ▸ moves k)

omit [DecidableEq ι] trans in
theorem moves_set [DecidableEq κ] {w : Writer ι κ ρ} {row : ρ} (moves : R (w.table k) (some row)) (j : κ) :
    R (w.table j) ((w.set k row).table j) := by
  unfold Writer.set
  by_cases here : j = k
  · rw [here]
    simpa using moves
  · simpa [here] using refl (w.table j)

theorem Steady.insert [DecidableEq κ] (steady : Steady R db) {row : ρ} (moves : R none (some row)) :
    Steady R (db.insert c k row).2 := by
  unfold Database.insert
  split
  · exact steady
  · next w acquired =>
    split
    · exact steady.hold refl trans acquired fun _ => refl _
    · next absent =>
      exact steady.hold refl trans acquired (moves_set refl (absent ▸ moves))

theorem Steady.update [DecidableEq κ] (steady : Steady R db) {change : ρ → ρ}
    (moves : ∀ w row, db.acquire c = some w → w.table k = some row →
      R (some row) (some (change row))) :
    Steady R (db.update c k change).2 := by
  unfold Database.update
  split
  · exact steady
  · next w acquired =>
    split
    · next row present =>
      have moved : R (w.table k) (some (change row)) := present ▸ moves w row acquired present
      exact steady.hold refl trans acquired (moves_set refl moved)
    · exact steady.hold refl trans acquired fun _ => refl _

theorem Steady.commit (steady : Steady R db) : Steady R (db.commit c) := by
  have latest : ∀ k, R (db.committed k) (db.latest c k) := fun k => steady.latest refl
  unfold Database.commit
  split
  · next w held =>
    obtain ⟨own, here⟩ := writes_eq.mp held
    refine ⟨?_, fun _ impossible => (nomatch impossible)⟩
    intro d seen version reading k
    rw [latest_own own here] at latest
    dsimp only at reading ⊢
    by_cases closing : d = c
    · rw [closing, Function.update_self] at reading
      cases reading
    · rw [Function.update_of_ne closing] at reading
      exact trans (steady.snapshots d seen version reading k) (latest k)
  · exact steady.setTx fun _ _ impossible => nomatch impossible

omit trans in
/-- What another connection would write to moves along as well. -/
theorem Steady.latest_commit (steady : Steady R db) :
    R (db.latest d k) ((db.commit c).latest d k) := by
  have mine : R (db.committed k) (db.latest c k) := steady.latest refl
  unfold Database.commit
  split
  · next w held =>
    obtain ⟨own, here⟩ := writes_eq.mp held
    change R (db.latest d k) (w.table k)
    by_cases same : d = c
    · rw [same, latest_own own here]
      exact refl _
    · rw [latest_other own (here ▸ Ne.symm same)]
      rwa [latest_own own here] at mine
  · exact refl _

omit refl trans

theorem Steady.rollback (steady : Steady R db) : Steady R (db.rollback c) := by
  have closed : Steady R { db with tx := Function.update db.tx c .autocommit } :=
    steady.setTx fun _ _ impossible => nomatch impossible
  refine ⟨closed.snapshots, ?_⟩
  intro w held k
  exact steady.writer w (Option.eq_some_of_filter_eq_some held) k

/-! ## Statements -/

/-- The database after a statement of a connection, rollbacks apart, whose write is in the
relation. -/
inductive Statement [DecidableEq κ] (R : Option ρ → Option ρ → Prop) (c : ι)
    (db : Database ι κ ρ) : Database ι κ ρ → Prop
  | none : Statement R c db db
  | select : Statement R c db (db.select c)
  | beginDeferred : Statement R c db (db.beginDeferred c)
  | insert (k : κ) (row : ρ) (moves : R none (some row)) : Statement R c db (db.insert c k row).2
  | update (k : κ) (change : ρ → ρ)
      (moves : ∀ w row, db.acquire c = some w → w.table k = some row →
        R (some row) (some (change row))) : Statement R c db (db.update c k change).2
  | commit : Statement R c db (db.commit c)

variable [DecidableEq κ] {after : Database ι κ ρ}

theorem Statement.steady (refl : ∀ a, R a a) (trans : ∀ {a b c}, R a b → R b c → R a c)
    (made : Statement R c db after) (steady : Steady R db) : Steady R after := by
  cases made with
  | none => exact steady
  | select => exact steady.select refl
  | beginDeferred => exact steady.beginDeferred
  | insert k row moves => exact steady.insert refl trans moves
  | update k change moves => exact steady.update refl trans moves
  | commit => exact steady.commit refl trans

/-- What is committed moves along the relation. -/
theorem Statement.committed (refl : ∀ a, R a a) (made : Statement R c db after)
    (steady : Steady R db) (k : κ) : R (db.committed k) (after.committed k) := by
  cases made with
  | commit =>
    rw [commit_committed]
    exact steady.latest refl
  | none => exact refl _
  | select =>
    rw [select_committed]
    exact refl _
  | beginDeferred =>
    rw [begin_committed]
    exact refl _
  | insert j row moves =>
    rw [insert_committed]
    exact refl _
  | update j change moves =>
    rw [update_committed]
    exact refl _

/-- So does what any connection would write to. -/
theorem Statement.latest (refl : ∀ a, R a a) (made : Statement R c db after)
    (steady : Steady R db) (k : κ) : R (db.latest d k) (after.latest d k) := by
  have held {w v : Writer ι κ ρ} (acquired : db.acquire c = some w) (here : v.connection = c)
      (moves : R (w.table k) (v.table k)) :
      R (db.latest d k) (({ db with writer := some v } : Database ι κ ρ).latest d k) := by
    rw [latest_hold acquired here]
    split
    · next same =>
      rw [same, ← (acquire_some acquired).2.1]
      exact moves
    · exact refl _
  cases made with
  | none => exact refl _
  | select =>
    rw [latest_congr select_committed select_writer]
    exact refl _
  | beginDeferred =>
    rw [latest_congr begin_committed begin_writer]
    exact refl _
  | insert j row moves =>
    unfold Database.insert
    split
    · exact refl _
    · next w acquired =>
      have here := (acquire_some acquired).1
      split
      · exact held acquired here (refl _)
      · next absent => exact held acquired here (moves_set refl (absent ▸ moves) k)
  | update j change moves =>
    unfold Database.update
    split
    · exact refl _
    · next w acquired =>
      have here := (acquire_some acquired).1
      split
      · next row present =>
        have moved : R (w.table j) (some (change row)) := present ▸ moves w row acquired present
        exact held acquired here (moves_set refl moved k)
      · exact held acquired here (refl _)
  | commit => exact steady.latest_commit refl

/-- Nothing another connection does reaches past the writer. -/
theorem Statement.locked {w : Writer ι κ ρ} (made : Statement R c db after)
    (held : db.writer = some w) (apart : w.connection ≠ c) :
    after.writer = some w ∧ after.committed = db.committed := by
  have locked : db.acquire c = Option.none := by
    unfold acquire
    rw [held]
    exact if_neg apart
  cases made with
  | none => exact ⟨held, rfl⟩
  | select => exact ⟨select_writer.trans held, select_committed⟩
  | beginDeferred => exact ⟨begin_writer.trans held, begin_committed⟩
  | insert k row moves =>
    unfold Database.insert
    rw [locked]
    exact ⟨held, rfl⟩
  | update k change moves =>
    unfold Database.update
    rw [locked]
    exact ⟨held, rfl⟩
  | commit =>
    unfold Database.commit
    rw [writes_none_of held apart]
    exact ⟨held, rfl⟩

end Steady

end DwSuperApps.Lib.Transactions
