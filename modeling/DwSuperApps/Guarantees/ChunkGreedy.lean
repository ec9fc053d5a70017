import DwSuperApps.Lib.GreedyRuns
import DwSuperApps.Source.Chunking

/-!
# Greedy chunk partitions

The partition of a source into chunks (`partition_chunks`).

* the loop over the lines emits the greedy runs of the lines, at their positions
  (`rest_ok`, `exists_rest`);
* chunks laid out from the first line are contiguous and cover the source
  (`Laid.greedyPlan`);
* a partition is the greedy one, and it is refused for a stated reason only
  (`partition_greedy`).
-/
namespace DwSuperApps.Guarantees.ChunkGreedy

open DwSuperApps.Lib DwSuperApps.Lib.Checked DwSuperApps.Lib.GreedyRuns
open DwSuperApps.Source.Chunking DwSuperApps.Source.Chunking.ChunkPartitioner

/-! ## Bounds -/

/-- The lines are within the bounds that are given. -/
def Fits (maxLines maxBytes : Option Int) (run : List Bytes) : Prop :=
  (∀ bound ∈ maxLines, (run.length : Int) ≤ bound) ∧
    ∀ bound ∈ maxBytes, (run.flatten.length : Int) ≤ bound

instance (maxLines maxBytes : Option Int) : DecidablePred (Fits maxLines maxBytes) := fun run =>
  inferInstanceAs (Decidable ((∀ bound ∈ maxLines, (run.length : Int) ≤ bound) ∧
    ∀ bound ∈ maxBytes, (run.flatten.length : Int) ≤ bound))

/-- The bounds the partitioner takes. -/
structure Limits (maxLines maxBytes : Option Int) (maxChunks : Int) : Prop where
  given : maxLines ≠ none ∨ maxBytes ≠ none
  lines : ∀ bound ∈ maxLines, 0 < bound ∧ bound ≤ maxChunkLines
  bytes : ∀ bound ∈ maxBytes, 0 < bound ∧ bound ≤ maxChunkBytes
  chunks : 0 < maxChunks ∧ maxChunks ≤ maxChunksLimit

/-- The value of a bound. -/
def valueOf {maximum : Nat} (bound : Option (Bound maximum)) : Option Int :=
  bound.map fun bound => (bound.value : Int)

theorem positiveInt_ok {value : Int} {field : String} {maximum : Nat} {bound : Bound maximum} :
    positiveInt value field maximum = .ok bound ↔ (bound.value : Int) = value := by
  obtain ⟨n, positive, bounded⟩ := bound
  unfold positiveInt
  split
  · simp only [reduceCtorEq, false_iff]
    omega
  · split
    · simp only [reduceCtorEq, false_iff]
      omega
    · simp only [Except.ok.injEq, Bound.mk.injEq]
      omega

theorem exists_bound {value : Int} {maximum : Nat} :
    (∃ bound : Bound maximum, (bound.value : Int) = value) ↔ 0 < value ∧ value ≤ maximum := by
  constructor
  · rintro ⟨bound, rfl⟩
    have positive := bound.positive
    have bounded := bound.bounded
    omega
  · rintro ⟨positive, bounded⟩
    exact ⟨⟨value.toNat, by omega, by omega⟩, Int.toNat_of_nonneg positive.le⟩

theorem map_ok {α β ε : Type} {x : Except ε α} {f : α → β} {b : β} :
    x.map f = .ok b ↔ ∃ a, x = .ok a ∧ f a = b := by
  cases x <;> simp [Except.map]

theorem optionalBound_ok {value : Option Int} {field : String} {maximum : Nat}
    {bound : Option (Bound maximum)} :
    optionalBound value field maximum = .ok bound ↔ valueOf bound = value := by
  unfold optionalBound valueOf
  cases value with
  | none => simp [eq_comm]
  | some value =>
    rw [map_ok, Option.map_eq_some_iff]
    refine exists_congr fun held => ?_
    rw [positiveInt_ok, and_comm, eq_comm]

theorem exists_valueOf {value : Option Int} {maximum : Nat} :
    (∃ bound : Option (Bound maximum), valueOf bound = value) ↔
      ∀ bound ∈ value, 0 < bound ∧ bound ≤ maximum := by
  cases value with
  | none => exact iff_of_true ⟨none, rfl⟩ fun _ member => by cases member
  | some value =>
    constructor
    · rintro ⟨bound, same⟩ _ member
      cases member
      obtain ⟨held, rfl, rfl⟩ := Option.map_eq_some_iff.mp same
      exact exists_bound.mp ⟨held, rfl⟩
    · intro within
      obtain ⟨bound, rfl⟩ := exists_bound.mpr (within value rfl)
      exact ⟨some bound, rfl⟩

theorem valueOf_ne_none {maximum : Nat} {bound : Option (Bound maximum)} :
    valueOf bound ≠ none ↔ bound ≠ none := by
  cases bound <;> simp [valueOf]

/-- What the constructor takes, and the partitioner it makes. -/
theorem make_ok {maxLines maxBytes : Option Int} {maxChunks : Int} {p : ChunkPartitioner} :
    make maxLines maxBytes maxChunks = .ok p ↔
      valueOf p.maxLines = maxLines ∧ valueOf p.maxBytes = maxBytes ∧
        (p.maxChunks.value : Int) = maxChunks := by
  unfold make
  simp only [bind_ok, ensure_ok, optionalBound_ok, positiveInt_ok]
  constructor
  · rintro ⟨-, -, lines, sameLines, bytes, sameBytes, chunks, sameChunks, made⟩
    split at made
    · cases made
      exact ⟨sameLines, sameBytes, sameChunks⟩
    · cases made
  · rintro ⟨rfl, rfl, rfl⟩
    refine ⟨(), ?_, p.maxLines, rfl, p.maxBytes, rfl, p.maxChunks, rfl, dif_pos p.policy⟩
    rw [valueOf_ne_none, valueOf_ne_none]
    exact p.policy

theorem exists_make {maxLines maxBytes : Option Int} {maxChunks : Int} :
    (∃ p, make maxLines maxBytes maxChunks = .ok p) ↔ Limits maxLines maxBytes maxChunks := by
  constructor
  · rintro ⟨p, made⟩
    obtain ⟨rfl, rfl, rfl⟩ := make_ok.mp made
    refine ⟨?_, exists_valueOf.mp ⟨_, rfl⟩, exists_valueOf.mp ⟨_, rfl⟩, exists_bound.mp ⟨_, rfl⟩⟩
    rw [valueOf_ne_none, valueOf_ne_none]
    exact p.policy
  · rintro ⟨given, lines, bytes, chunks⟩
    obtain ⟨lineBound, rfl⟩ := exists_valueOf.mpr lines
    obtain ⟨byteBound, rfl⟩ := exists_valueOf.mpr bytes
    obtain ⟨chunkBound, rfl⟩ := exists_bound.mpr chunks
    rw [valueOf_ne_none, valueOf_ne_none] at given
    exact ⟨⟨lineBound, byteBound, chunkBound, given⟩, make_ok.mpr ⟨rfl, rfl, rfl⟩⟩

/-! ## One line -/

section Lines
variable {p : ChunkPartitioner}

/-- The lines are within the bounds of the partitioner. -/
abbrev Within (p : ChunkPartitioner) : List Bytes → Prop :=
  Fits (valueOf p.maxLines) (valueOf p.maxBytes)

/-- A line is within the byte bound. -/
def Short (maxBytes : Option Int) (line : Bytes) : Prop :=
  ∀ bound ∈ maxBytes, (line.length : Int) ≤ bound

instance (maxBytes : Option Int) : DecidablePred (Short maxBytes) := fun line =>
  inferInstanceAs (Decidable (∀ bound ∈ maxBytes, (line.length : Int) ≤ bound))

theorem checkLine_ok {unit : Bytes} {index : Nat} :
    p.checkLine unit index = .ok () ↔ Short (valueOf p.maxBytes) unit := by
  unfold checkLine Short valueOf
  cases p.maxBytes with
  | none => simp
  | some bound => simp

/-- A short line fits alone. -/
theorem within_single {unit : Bytes} (short : Short (valueOf p.maxBytes) unit) :
    Within p [unit] := by
  refine ⟨?_, ?_⟩
  · intro bound member
    obtain ⟨held, -, rfl⟩ := Option.map_eq_some_iff.mp member
    have positive := held.positive
    simp only [List.length_singleton]
    omega
  · rwa [List.flatten_singleton]

theorem fits_of_append {maxLines maxBytes : Option Int} (a b : List Bytes)
    (fits : Fits maxLines maxBytes (a ++ b)) : Fits maxLines maxBytes a := by
  obtain ⟨lines, bytes⟩ := fits
  refine ⟨fun bound member => ?_, fun bound member => ?_⟩
  · have larger := lines bound member
    rw [List.length_append] at larger
    omega
  · have larger := bytes bound member
    rw [List.flatten_append, List.length_append] at larger
    omega

/-- The lines that are pending are emitted where the next does not fit with them. -/
theorem wouldExceed_iff {pending : List Bytes} (started : pending ≠ []) {unit : Bytes} :
    p.WouldExceed pending unit ↔ ¬ Within p (pending ++ [unit]) := by
  unfold WouldExceed Within Fits valueOf
  rw [not_and_or]
  refine or_congr ?_ ?_
  · cases p.maxLines with
    | none => simp
    | some bound =>
      simp only [Option.mem_def, Option.some.injEq, exists_eq_left', Option.map_some, forall_eq',
        List.length_append, List.length_singleton]
      omega
  · cases p.maxBytes with
    | none => simp
    | some bound =>
      simp only [Option.mem_def, Option.some.injEq, exists_eq_left', Option.map_some, forall_eq',
        List.flatten_append, List.flatten_singleton, List.length_append, started, not_false_eq_true,
        ne_eq, true_and]
      omega

end Lines

/-! ## The loop -/

theorem flatten_pos {run : List Bytes} (started : run ≠ []) (filled : ∀ unit ∈ run, unit ≠ []) :
    0 < run.flatten.length := by
  obtain ⟨unit, rest, rfl⟩ := List.exists_cons_of_ne_nil started
  have size := List.length_pos_of_ne_nil (filled unit List.mem_cons_self)
  rw [List.flatten_cons, List.length_append]
  omega

/-- The pass stands before a line: the pending lines reach up to it. -/
structure At (pass : Pass) (line : Nat) : Prop where
  first : 1 ≤ pass.pendingStartLine
  filled : ∀ unit ∈ pass.pending, unit ≠ []
  lines : line = pass.pendingStartLine + pass.pending.length
  bytes : pass.currentByte = pass.pendingStartByte + pass.pending.flatten.length

theorem At.extended {pass : Pass} {unit : Bytes} {line : Nat} (before : At pass line)
    (filled : unit ≠ []) : At { pass with
      pending := pass.pending ++ [unit], currentByte := pass.currentByte + unit.length }
        (line + 1) where
  first := before.first
  filled := List.forall_mem_append.mpr ⟨before.filled, List.forall_mem_singleton.mpr filled⟩
  lines := by
    rw [List.length_append, List.length_singleton, before.lines, Nat.add_assoc]
  bytes := by
    rw [List.flatten_append, List.flatten_singleton, List.length_append, before.bytes,
      Nat.add_assoc]

/-- A new chunk begins at the line the pass stands before. -/
theorem At.cut {pass : Pass} {unit : Bytes} {line : Nat} (before : At pass line)
    (filled : unit ≠ []) (chunks : List ChunkRef) :
    At ⟨chunks, [unit], line, pass.currentByte, pass.currentByte + unit.length⟩ (line + 1) where
  first := by
    rw [before.lines]
    exact before.first.trans (Nat.le_add_right _ _)
  filled := List.forall_mem_singleton.mpr filled
  lines := rfl
  bytes := by rw [List.flatten_singleton]

section Loop
variable [Sha256] [ByteHash] {p : ChunkPartitioner} {source : StandardsSourceRef}

/-- The chunk of a run of lines that begins at a line and a byte. -/
def IsChunk (source : StandardsSourceRef) (line byte : Nat) (run : List Bytes) (chunk : ChunkRef) :
    Prop :=
  ∃ range : ChunkRange, range.lineStart = line ∧ range.lineEnd + 1 = line + run.length ∧
    range.byteStart = byte ∧ range.byteEnd = byte + run.flatten.length ∧
      chunk = chunkOf source range run.flatten

/-- The chunks of the runs, each behind the one before. -/
inductive Laid (source : StandardsSourceRef) :
    Nat → Nat → List (List Bytes) → List ChunkRef → Prop where
  | nil (line byte : Nat) : Laid source line byte [] []
  | cons {line byte : Nat} {run : List Bytes} {runs : List (List Bytes)} {chunk : ChunkRef}
      {chunks : List ChunkRef} (first : IsChunk source line byte run chunk)
      (others : Laid source (line + run.length) (byte + run.flatten.length) runs chunks) :
      Laid source line byte (run :: runs) (chunk :: chunks)

theorem IsChunk.unique {line byte : Nat} {run : List Bytes} {chunk other : ChunkRef}
    (first : IsChunk source line byte run chunk) (second : IsChunk source line byte run other) :
    chunk = other := by
  obtain ⟨⟨lineStart, lineEnd, byteStart, byteEnd, _, _⟩, start, stop, origin, reach, rfl⟩ := first
  obtain ⟨⟨lineStart', lineEnd', byteStart', byteEnd', _, _⟩, start', stop', origin', reach', rfl⟩ := second
  dsimp only at *
  obtain rfl : lineStart = lineStart' := start.trans start'.symm
  obtain rfl : lineEnd = lineEnd' := by omega
  obtain rfl : byteStart = byteStart' := origin.trans origin'.symm
  obtain rfl : byteEnd = byteEnd' := reach.trans reach'.symm
  rfl

/-- Pending lines are emitted as one chunk, where one more is allowed. -/
theorem emit_pending (p : ChunkPartitioner) (source : StandardsSourceRef) {pass : Pass}
    {line : Nat} (before : At pass line) (started : pass.pending ≠ []) :
    ∃ chunk, IsChunk source pass.pendingStartLine pass.pendingStartByte pass.pending chunk ∧
      ∀ chunks, p.emit source pass (line - 1) pass.currentByte = .ok chunks ↔
        pass.chunks.length + 1 ≤ p.maxChunks.value ∧ chunks = pass.chunks ++ [chunk] := by
  have count := List.length_pos_of_ne_nil started
  have size := flatten_pos started before.filled
  have start := before.first
  have lines := before.lines
  have bytes := before.bytes
  let range : ChunkRange := ⟨pass.pendingStartLine, line - 1, pass.pendingStartByte,
    pass.currentByte, by omega, by omega⟩
  have made : ChunkRange.make pass.pendingStartLine (line - 1) pass.pendingStartByte
      pass.currentByte = .ok range := by
    rw [ChunkRange.make, dif_neg (by omega), dif_neg (by omega)]
  refine ⟨chunkOf source range pass.pending.flatten, ⟨range, rfl, ?_, rfl, bytes, rfl⟩, ?_⟩
  · change line - 1 + 1 = _
    omega
  · intro chunks
    unfold emit
    rw [if_neg started, made, ok_bind]
    simp only [bind_ok, ensure_ok, List.length_append, List.length_singleton]
    constructor
    · rintro ⟨-, allowed, same⟩
      cases same
      exact ⟨allowed, rfl⟩
    · rintro ⟨allowed, rfl⟩
      exact ⟨(), allowed, rfl⟩

/-- A line that fits with the pending ones joins them. -/
theorem step_extend {pass : Pass} {unit : Bytes} {line : Nat}
    (room : pass.pending = [] ∨ Within p (pass.pending ++ [unit])) {pass' : Pass} :
    p.step source pass (unit, line) = .ok pass' ↔ Short (valueOf p.maxBytes) unit ∧
      pass' = { pass with
        pending := pass.pending ++ [unit], currentByte := pass.currentByte + unit.length } := by
  have stays : ¬ (pass.pending ≠ [] ∧ p.WouldExceed pass.pending unit) := by
    rintro ⟨started, exceeds⟩
    exact room.elim started ((wouldExceed_iff started).mp exceeds)
  unfold step
  simp only [bind_ok, if_neg stays]
  constructor
  · rintro ⟨⟨⟩, short, other, same, made⟩
    cases same
    cases made
    exact ⟨checkLine_ok.mp short, rfl⟩
  · rintro ⟨short, rfl⟩
    exact ⟨(), checkLine_ok.mpr short, pass, rfl, rfl⟩

/-- A line that does not fit begins the next chunk. -/
theorem step_cut (p : ChunkPartitioner) (source : StandardsSourceRef) {pass : Pass}
    {unit : Bytes} {line : Nat} (before : At pass line) (started : pass.pending ≠ []) (full : ¬ Within p (pass.pending ++ [unit])) :
    ∃ chunk, IsChunk source pass.pendingStartLine pass.pendingStartByte pass.pending chunk ∧
      ∀ pass', p.step source pass (unit, line) = .ok pass' ↔ Short (valueOf p.maxBytes) unit ∧
        pass.chunks.length + 1 ≤ p.maxChunks.value ∧
        pass' = ⟨pass.chunks ++ [chunk], [unit], line, pass.currentByte,
          pass.currentByte + unit.length⟩ := by
  obtain ⟨chunk, isChunk, emitted⟩ := emit_pending p source before started
  refine ⟨chunk, isChunk, fun pass' => ?_⟩
  unfold step
  simp only [bind_ok, if_pos (And.intro started ((wouldExceed_iff started).mpr full))]
  constructor
  · rintro ⟨⟨⟩, short, chunks, emit, next, same, made⟩
    obtain ⟨allowed, rfl⟩ := (emitted chunks).mp emit
    cases same
    cases made
    exact ⟨checkLine_ok.mp short, allowed, rfl⟩
  · rintro ⟨short, allowed, rfl⟩
    exact ⟨(), checkLine_ok.mpr short, _, (emitted _).mpr ⟨allowed, rfl⟩, _, rfl, rfl⟩

/-- The lines that are left, and the last chunk. -/
def rest (p : ChunkPartitioner) (source : StandardsSourceRef) (pass : Pass) (units : List Bytes)
    (line : Nat) : Except Raised (List ChunkRef) := do
  let pass' ← (units.zipIdx line).foldlM (p.step source) pass
  p.emit source pass' (line + units.length - 1) pass'.currentByte

theorem rest_nil {pass : Pass} {line : Nat} :
    rest p source pass [] line = p.emit source pass (line - 1) pass.currentByte := by
  unfold rest
  rw [List.zipIdx_nil, List.foldlM_nil]
  rfl

theorem rest_cons {pass : Pass} {unit : Bytes} {units : List Bytes} {line : Nat} :
    rest p source pass (unit :: units) line =
      (p.step source pass (unit, line) >>= fun next => rest p source next units (line + 1)) := by
  unfold rest
  rw [List.zipIdx_cons, List.foldlM_cons, bind_assoc, List.length_cons]
  have reach : line + (units.length + 1) - 1 = line + 1 + units.length - 1 := by omega
  rw [reach]

/-- The chunks of a pass and the lines that are left: those of the pass, and the greedy runs
of the pending and the remaining lines laid out behind them. -/
theorem rest_ok {pass : Pass} {units : List Bytes} {line : Nat} {chunks : List ChunkRef}
    (before : At pass line) (filled : ∀ unit ∈ units, unit ≠ [])
    (allowed : pass.chunks.length ≤ p.maxChunks.value) :
    rest p source pass units line = .ok chunks ↔
      (∀ unit ∈ units, Short (valueOf p.maxBytes) unit) ∧
      pass.chunks.length + (runsFrom (Within p) pass.pending units).length ≤ p.maxChunks.value ∧
      ∃ new, Laid source pass.pendingStartLine pass.pendingStartByte
        (runsFrom (Within p) pass.pending units) new ∧ chunks = pass.chunks ++ new := by
  induction units generalizing pass line with
  | nil =>
    rw [rest_nil]
    by_cases empty : pass.pending = []
    · have none : runsFrom (Within p) pass.pending [] = [] := if_pos empty
      rw [emit, if_pos empty, none]
      constructor
      · intro same
        cases same
        exact ⟨List.forall_mem_nil _, allowed, [], .nil _ _, (List.append_nil _).symm⟩
      · rintro ⟨-, -, new, laid, rfl⟩
        cases laid
        rw [List.append_nil]
    · obtain ⟨chunk, isChunk, emitted⟩ := emit_pending p source before empty
      rw [emitted, runsFrom_nil empty]
      constructor
      · rintro ⟨room, rfl⟩
        exact ⟨List.forall_mem_nil _, room, [chunk], .cons isChunk (.nil _ _), rfl⟩
      · rintro ⟨-, room, new, laid, rfl⟩
        cases laid with
        | cons first others =>
          cases others
          exact ⟨room, by rw [first.unique isChunk]⟩
  | cons unit units ih =>
    obtain ⟨here, later⟩ := List.forall_mem_cons.mp filled
    rw [rest_cons, bind_ok, List.forall_mem_cons]
    by_cases full : pass.pending ≠ [] ∧ ¬ Within p (pass.pending ++ [unit])
    · -- the pending lines are a run of their own
      obtain ⟨chunk, isChunk, stepped⟩ :=
        step_cut p source before full.1 full.2
      rw [runsFrom_cut full.1 full.2, List.length_cons]
      have next := ih (before.cut here (pass.chunks ++ [chunk])) later
      rw [List.length_append, List.length_singleton] at next
      constructor
      · rintro ⟨pass', step, final⟩
        obtain ⟨short, room, rfl⟩ := (stepped pass').mp step
        obtain ⟨shorts, count, new, laid, rfl⟩ := (next room).mp final
        dsimp only at count laid
        rw [before.lines, before.bytes] at laid
        refine ⟨⟨short, shorts⟩, by omega, chunk :: new, .cons isChunk laid, ?_⟩
        rw [List.append_assoc, List.singleton_append]
      · rintro ⟨⟨short, shorts⟩, count, new, laid, rfl⟩
        cases laid with
        | @cons _ _ _ _ _ newer first others =>
          obtain rfl := first.unique isChunk
          have room : pass.chunks.length + 1 ≤ p.maxChunks.value := by omega
          have fewer : pass.chunks.length + 1 + (runsFrom (Within p) [unit] units).length ≤
              p.maxChunks.value := by omega
          refine ⟨_, (stepped _).mpr ⟨short, room, rfl⟩, (next room).mpr
            ⟨shorts, fewer, newer, ?_, ?_⟩⟩
          · dsimp only
            rw [before.lines, before.bytes]
            exact others
          · rw [List.append_assoc, List.singleton_append]
    · have room : pass.pending = [] ∨ Within p (pass.pending ++ [unit]) := by
        by_cases empty : pass.pending = []
        · exact .inl empty
        · exact .inr (not_not.mp fun fails => full ⟨empty, fails⟩)
      rw [runsFrom_extend room]
      have next := ih (before.extended here) later allowed
      constructor
      · rintro ⟨pass', step, final⟩
        obtain ⟨short, rfl⟩ := (step_extend room).mp step
        obtain ⟨shorts, others⟩ := next.mp final
        exact ⟨⟨short, shorts⟩, others⟩
      · rintro ⟨⟨short, shorts⟩, others⟩
        exact ⟨_, (step_extend room).mpr ⟨short, rfl⟩, next.mpr ⟨shorts, others⟩⟩

theorem chunksOf_eq_rest (p : ChunkPartitioner) (source : StandardsSourceRef) (units : List Bytes) :
    p.chunksOf source units = rest p source {} units 1 := by
  unfold chunksOf rest
  rw [Nat.add_sub_cancel_left]

/-- The chunks of the lines are their greedy runs, laid out from the first line. -/
theorem chunksOf_ok {units : List Bytes} {chunks : List ChunkRef}
    (filled : ∀ unit ∈ units, unit ≠ []) :
    p.chunksOf source units = .ok chunks ↔
      (∀ unit ∈ units, Short (valueOf p.maxBytes) unit) ∧
      (runsFrom (Within p) [] units).length ≤ p.maxChunks.value ∧
      Laid source 1 0 (runsFrom (Within p) [] units) chunks := by
  have before : At {} 1 := ⟨le_rfl, List.forall_mem_nil _, rfl, rfl⟩
  rw [chunksOf_eq_rest, rest_ok before filled (Nat.zero_le _)]
  simp only [List.length_nil, Nat.zero_add, List.nil_append, exists_eq_right']

/-! ## Chunks laid out -/

theorem IsChunk.sourceRef {line byte : Nat} {run : List Bytes} {chunk : ChunkRef}
    (isChunk : IsChunk source line byte run chunk) : chunk.sourceRef = source := by
  obtain ⟨range, -, -, -, -, rfl⟩ := isChunk
  rfl

theorem Laid.sourceRef {line byte : Nat} {runs : List (List Bytes)} {chunks : List ChunkRef}
    (laid : Laid source line byte runs chunks) : ∀ chunk ∈ chunks, chunk.sourceRef = source := by
  induction laid with
  | nil => exact List.forall_mem_nil _
  | cons first _ ih => exact List.forall_mem_cons.mpr ⟨first.sourceRef, ih⟩

theorem exists_isChunk (source : StandardsSourceRef) {line : Nat} (byte : Nat) {run : List Bytes}
    (start : 1 ≤ line) (started : run ≠ [])
    (filled : ∀ unit ∈ run, unit ≠ []) : ∃ chunk, IsChunk source line byte run chunk := by
  have count := List.length_pos_of_ne_nil started
  have size := flatten_pos started filled
  refine ⟨_, ⟨line, line + run.length - 1, byte, byte + run.flatten.length, by omega, by omega⟩,
    rfl, ?_, rfl, rfl, rfl⟩
  change line + run.length - 1 + 1 = _
  omega

theorem exists_laid {line byte : Nat} {runs : List (List Bytes)} (start : 1 ≤ line)
    (started : ∀ run ∈ runs, run ≠ []) (filled : ∀ unit ∈ runs.flatten, unit ≠ []) :
    ∃ chunks, Laid source line byte runs chunks := by
  induction runs generalizing line byte with
  | nil => exact ⟨[], .nil line byte⟩
  | cons run runs ih =>
    rw [List.flatten_cons, List.forall_mem_append] at filled
    obtain ⟨begun, others⟩ := List.forall_mem_cons.mp started
    obtain ⟨chunk, first⟩ := exists_isChunk source byte start begun filled.1
    obtain ⟨chunks, laid⟩ := @ih (line + run.length) (byte + run.flatten.length)
      (by omega) others filled.2
    exact ⟨chunk :: chunks, .cons first laid⟩

theorem Laid.unique {line byte : Nat} {runs : List (List Bytes)} {chunks others : List ChunkRef}
    (laid : Laid source line byte runs chunks) (again : Laid source line byte runs others) :
    chunks = others := by
  induction laid generalizing others with
  | nil =>
    cases again
    rfl
  | cons first _ ih =>
    cases again with
    | cons first' later => rw [first.unique first', ih later]

/-- Chunks laid out for a text that is not empty are not empty. -/
theorem Laid.ne_nil {line byte : Nat} {runs : List (List Bytes)} {chunks : List ChunkRef}
    (laid : Laid source line byte runs chunks) (content : runs.flatten ≠ []) : chunks ≠ [] := by
  rintro rfl
  cases laid
  exact content rfl

theorem Laid.head {line byte : Nat} {runs : List (List Bytes)} {chunks : List ChunkRef}
    (laid : Laid source line byte runs chunks) :
    ∀ chunk ∈ chunks.head?, chunk.range.lineStart = line ∧ chunk.range.byteStart = byte := by
  intro chunk member
  cases laid with
  | nil => cases member
  | cons first others =>
    cases member
    obtain ⟨range, start, -, origin, -, rfl⟩ := first
    exact ⟨start, origin⟩

/-- Each chunk begins where the one before ends. -/
theorem Laid.contiguous {line byte : Nat} {runs : List (List Bytes)} {chunks : List ChunkRef}
    (laid : Laid source line byte runs chunks) :
    chunks.IsChain fun a b => b.range.lineStart = a.range.lineEnd + 1 ∧
      b.range.byteStart = a.range.byteEnd := by
  induction laid with
  | nil => exact List.isChain_nil
  | cons first others ih =>
    refine List.isChain_cons.mpr ⟨fun next member => ?_, ih⟩
    obtain ⟨start, origin⟩ := others.head next member
    obtain ⟨range, -, stop, -, reach, rfl⟩ := first
    exact ⟨start.trans stop.symm, origin.trans reach.symm⟩

/-- The last chunk ends with the last run. -/
theorem Laid.last {line byte : Nat} {runs : List (List Bytes)} {chunks : List ChunkRef}
    (laid : Laid source line byte runs chunks) :
    ∀ chunk ∈ chunks.getLast?, chunk.range.lineEnd + 1 = line + runs.flatten.length ∧
      chunk.range.byteEnd = byte + runs.flatten.flatten.length := by
  induction laid with
  | nil => exact fun _ member => by cases member
  | @cons line byte run runs chunk chunks first others ih =>
    intro last member
    rw [List.flatten_cons, List.length_append, List.flatten_append, List.length_append,
      ← Nat.add_assoc, ← Nat.add_assoc]
    cases others with
    | nil =>
      cases member
      obtain ⟨range, -, stop, -, reach, rfl⟩ := first
      exact ⟨stop, reach⟩
    | cons second later =>
      rw [List.getLast?_cons_cons] at member
      exact ih last member

theorem Laid.start_le {line byte : Nat} {runs : List (List Bytes)} {chunks : List ChunkRef}
    (laid : Laid source line byte runs chunks) : ∀ chunk ∈ chunks, byte ≤ chunk.range.byteStart := by
  induction laid with
  | nil => exact List.forall_mem_nil _
  | cons first others ih =>
    obtain ⟨range, -, -, origin, -, rfl⟩ := first
    refine List.forall_mem_cons.mpr ⟨origin.ge, fun chunk member => ?_⟩
    exact (Nat.le_add_right _ _).trans (ih chunk member)

/-- The chunks stand in the order of their sort keys. -/
theorem Laid.strict {line byte : Nat} {runs : List (List Bytes)} {chunks : List ChunkRef}
    (laid : Laid source line byte runs chunks) :
    chunks.Pairwise fun a b => a.sortKey < b.sortKey := by
  induction laid with
  | nil => exact List.Pairwise.nil
  | cons first others ih =>
    refine List.pairwise_cons.mpr ⟨fun chunk member => ?_, ih⟩
    have later := others.start_le chunk member
    obtain ⟨range, -, -, origin, reach, rfl⟩ := first
    have size := range.nonempty
    refine Prod.Lex.toLex_lt_toLex.mpr (.inl ?_)
    change range.byteStart < chunk.range.byteStart
    omega

end Loop

/-! ## Lines -/

theorem splitLines_flatten (raw : Bytes) : (splitLines raw).flatten = raw := by
  fun_induction splitLines raw with
  | case1 => rfl
  | case2 rest ih => rw [List.flatten_cons, ih, List.singleton_append]
  | case3 rest ih => rw [List.flatten_cons, ih, List.cons_append, List.singleton_append]
  | case4 rest _ ih => rw [List.flatten_cons, ih, List.singleton_append]
  | case5 byte rest _ _ _ none ih =>
    rw [none] at ih
    rw [← ih]
    rfl
  | case6 byte rest _ _ _ line lines found ih =>
    rw [found] at ih
    rw [← ih]
    rfl

theorem splitLines_filled (raw : Bytes) : ∀ line ∈ splitLines raw, line ≠ [] := by
  fun_induction splitLines raw with
  | case1 => exact List.forall_mem_nil _
  | case2 rest ih => exact List.forall_mem_cons.mpr ⟨List.cons_ne_nil _ _, ih⟩
  | case3 rest ih => exact List.forall_mem_cons.mpr ⟨List.cons_ne_nil _ _, ih⟩
  | case4 rest _ ih => exact List.forall_mem_cons.mpr ⟨List.cons_ne_nil _ _, ih⟩
  | case5 byte rest => exact List.forall_mem_singleton.mpr (List.cons_ne_nil _ _)
  | case6 byte rest _ _ _ line lines found ih =>
    rw [found] at ih
    exact List.forall_mem_cons.mpr ⟨List.cons_ne_nil _ _, (List.forall_mem_cons.mp ih).2⟩

theorem splitLines_ne_nil {raw : Bytes} (content : raw ≠ []) : splitLines raw ≠ [] := by
  intro none
  apply content
  rw [← splitLines_flatten raw, none]
  rfl

/-- The lines of a range. -/
def linesAt (raw : Bytes) (range : ChunkRange) : List Bytes :=
  ((splitLines raw).drop (range.lineStart - 1)).take (range.lineEnd + 1 - range.lineStart)

/-- The bytes of a range. -/
def bytesAt (raw : Bytes) (range : ChunkRange) : Bytes :=
  (raw.drop range.byteStart).take (range.byteEnd - range.byteStart)

section Plans
variable [Sha256] [ByteHash]

/-- The ranges and the digest of a chunk are those of a run. -/
def Placed (raw : Bytes) (run : List Bytes) (chunk : ChunkRef) : Prop :=
  linesAt raw chunk.range = run ∧ bytesAt raw chunk.range = run.flatten ∧
    chunk.contentDigest = rawDigest run.flatten

theorem IsChunk.placed {source : StandardsSourceRef} {raw : Bytes} {before after : List Bytes}
    {run : List Bytes} {chunk : ChunkRef} (lines : splitLines raw = before ++ (run ++ after))
    (isChunk : IsChunk source (before.length + 1) before.flatten.length run chunk) :
    Placed raw run chunk := by
  have bytes : raw = before.flatten ++ (run.flatten ++ after.flatten) := by
    rw [← splitLines_flatten raw, lines, List.flatten_append, List.flatten_append]
  obtain ⟨range, start, stop, origin, reach, rfl⟩ := isChunk
  have count : range.lineEnd + 1 - range.lineStart = run.length := by omega
  have size : range.byteEnd - range.byteStart = run.flatten.length := by omega
  refine ⟨?_, ?_, rfl⟩
  · change linesAt raw range = run
    rw [linesAt, count, start, Nat.add_sub_cancel, lines, List.drop_left, List.take_left]
  · change bytesAt raw range = run.flatten
    rw [bytesAt, size, origin, bytes, List.drop_left, List.take_left]

/-- Chunks laid out behind the first lines of a text are placed on its other lines. -/
theorem Laid.placed {source : StandardsSourceRef} {raw : Bytes} {before : List Bytes}
    {runs : List (List Bytes)} {chunks : List ChunkRef}
    (lines : splitLines raw = before ++ runs.flatten)
    (laid : Laid source (before.length + 1) before.flatten.length runs chunks) :
    List.Forall₂ (Placed raw) runs chunks := by
  induction runs generalizing before chunks with
  | nil =>
    cases laid
    exact .nil
  | cons run runs ih =>
    rw [List.flatten_cons] at lines
    cases laid with
    | cons first others =>
      refine .cons (first.placed lines) (@ih (before ++ run) _ ?_ ?_)
      · rw [lines, List.append_assoc]
      · rw [List.length_append, List.flatten_append, List.length_append, Nat.add_right_comm]
        exact others

/-- The chunks are the greedy partition of a text within the bounds: contiguous from the
first line to the last, none empty, with the lines and the bytes of a chunk the same text. -/
structure GreedyPlan (maxLines maxBytes : Option Int) (raw : Bytes) (chunks : List ChunkRef) :
    Prop where
  starts : ∃ first ∈ chunks.head?, first.range.lineStart = 1 ∧ first.range.byteStart = 0
  ends : ∃ last ∈ chunks.getLast?, last.range.lineEnd = (splitLines raw).length ∧
    last.range.byteEnd = raw.length
  contiguous : chunks.IsChain fun a b => b.range.lineStart = a.range.lineEnd + 1 ∧
    b.range.byteStart = a.range.byteEnd
  nonempty : ∀ chunk ∈ chunks, linesAt raw chunk.range ≠ [] ∧ bytesAt raw chunk.range ≠ []
  aligned : ∀ chunk ∈ chunks, (linesAt raw chunk.range).flatten = bytesAt raw chunk.range
  digests : ∀ chunk ∈ chunks, chunk.contentDigest = rawDigest (bytesAt raw chunk.range)
  whole : (chunks.map fun chunk => bytesAt raw chunk.range).flatten = raw
  greedy : Greedy (Fits maxLines maxBytes) (splitLines raw)
    (chunks.map fun chunk => linesAt raw chunk.range)

omit [Sha256] in
theorem Placed.map_lines {raw : Bytes} {runs : List (List Bytes)} {chunks : List ChunkRef}
    (placed : List.Forall₂ (Placed raw) runs chunks) :
    (chunks.map fun chunk => linesAt raw chunk.range) = runs := by
  induction placed with
  | nil => rfl
  | cons first _ ih => rw [List.map_cons, ih, first.1]

omit [Sha256] in
theorem Placed.of_mem {raw : Bytes} {runs : List (List Bytes)} {chunks : List ChunkRef}
    (placed : List.Forall₂ (Placed raw) runs chunks) :
    ∀ chunk ∈ chunks, ∃ run ∈ runs, Placed raw run chunk := by
  induction placed with
  | nil => exact List.forall_mem_nil _
  | cons first _ ih =>
    refine List.forall_mem_cons.mpr ⟨⟨_, List.mem_cons_self, first⟩, fun chunk member => ?_⟩
    obtain ⟨run, known, found⟩ := ih chunk member
    exact ⟨run, List.mem_cons_of_mem _ known, found⟩

/-- Greedy runs of all lines, laid out from the first, are the greedy partition. -/
theorem Laid.greedyPlan {source : StandardsSourceRef} {maxLines maxBytes : Option Int}
    {raw : Bytes} {runs : List (List Bytes)} {chunks : List ChunkRef} (content : raw ≠ [])
    (greedy : Greedy (Fits maxLines maxBytes) (splitLines raw) runs)
    (laid : Laid source 1 0 runs chunks) : GreedyPlan maxLines maxBytes raw chunks := by
  have placed : List.Forall₂ (Placed raw) runs chunks :=
    @Laid.placed _ _ source raw [] runs chunks greedy.whole.symm laid
  have lines := Placed.map_lines placed
  have same : ∀ chunk ∈ chunks, (linesAt raw chunk.range).flatten = bytesAt raw chunk.range := by
    intro chunk member
    obtain ⟨run, -, linesOf, bytesOf, -⟩ := Placed.of_mem placed chunk member
    rw [linesOf, bytesOf]
  have filledChunks : chunks ≠ [] := by
    apply laid.ne_nil
    rw [greedy.whole]
    exact splitLines_ne_nil content
  refine ⟨?_, ?_, laid.contiguous, ?_, same, ?_, ?_, lines ▸ greedy⟩
  · obtain ⟨first, others, rfl⟩ := List.exists_cons_of_ne_nil filledChunks
    exact ⟨first, rfl, laid.head first rfl⟩
  · have last := List.getLast?_eq_getLast_of_ne_nil filledChunks
    obtain ⟨stop, reach⟩ := laid.last _ last
    rw [greedy.whole] at stop reach
    rw [splitLines_flatten] at reach
    exact ⟨_, last, by omega, by omega⟩
  · intro chunk member
    obtain ⟨run, known, linesOf, bytesOf, -⟩ := Placed.of_mem placed chunk member
    have started := greedy.nonempty run known
    have filled : ∀ unit ∈ run, unit ≠ [] := by
      intro unit inside
      apply splitLines_filled raw
      rw [← greedy.whole]
      exact List.mem_flatten_of_mem known inside
    rw [linesOf, bytesOf]
    exact ⟨started, List.ne_nil_of_length_pos (flatten_pos started filled)⟩
  · intro chunk member
    obtain ⟨run, -, -, bytesOf, digest⟩ := Placed.of_mem placed chunk member
    rw [bytesOf, digest]
  · have bytes : (chunks.map fun chunk => bytesAt raw chunk.range) = runs.map List.flatten := by
      rw [← lines, List.map_map]
      exact (List.map_congr_left fun chunk member => (same chunk member).symm)
    rw [bytes, ← List.flatten_flatten, greedy.whole, splitLines_flatten]

/-! ## Partitions -/

/-- Everything a partition asks of a source and its text. -/
structure Partitionable (source : StandardsSourceRef) (maxLines maxBytes : Option Int)
    (maxChunks : Int) (raw : Bytes) : Prop where
  digest : rawDigest raw = source.blobDigest
  content : raw ≠ []
  short : ∀ line ∈ splitLines raw, Short maxBytes line
  count : ((runsFrom (Fits maxLines maxBytes) [] (splitLines raw)).length : Int) ≤ maxChunks
  distinct : ∀ chunks,
    Laid source 1 0 (runsFrom (Fits maxLines maxBytes) [] (splitLines raw)) chunks →
      (chunks.map (·.chunkId)).Nodup

theorem sortedBy_laid {source : StandardsSourceRef} {line byte : Nat} {runs : List (List Bytes)}
    {chunks : List ChunkRef} (laid : Laid source line byte runs chunks) :
    Sorted.sortedBy ChunkRef.sortKey chunks = chunks := by
  have distinct : (chunks.map ChunkRef.sortKey).Nodup := Sorted.distinct_of_strict laid.strict
  exact Sorted.eq_of_strict (Sorted.sortedBy_strict distinct) laid.strict
    fun _ => Sorted.mem_sortedBy

/-- Chunks laid out are a partition iff their ids are distinct. -/
theorem partition_make_ok {source : StandardsSourceRef} {maxLines : Option (Bound maxChunkLines)}
    {maxBytes : Option (Bound maxChunkBytes)} {line byte : Nat} {runs : List (List Bytes)}
    {chunks : List ChunkRef} (policy : maxLines ≠ none ∨ maxBytes ≠ none)
    (started : chunks ≠ []) (laid : Laid source line byte runs chunks) {others : List ChunkRef} :
    (∃ plan, ChunkPartition.make source maxLines maxBytes chunks
        (canonicalDigest (payload source maxLines maxBytes chunks)) = .ok plan ∧
        plan.chunks = others) ↔
      (chunks.map (·.chunkId)).Nodup ∧ chunks = others := by
  have bound : ∀ chunk ∈ chunks, chunk.sourceRef.identity = source.identity :=
    fun chunk member => congrArg _ (laid.sourceRef chunk member)
  unfold ChunkPartition.make
  simp only [sortedBy_laid laid, dif_pos policy, dif_pos started, dif_pos bound, if_pos]
  by_cases distinct : (chunks.map (·.chunkId)).Nodup
  · simp [distinct]
  · simp [distinct]

/-- A partitioner makes the greedy partition of a text, where it makes one. -/
theorem partition_ok {p : ChunkPartitioner} {source : StandardsSourceRef} {content : Content}
    {raw : Bytes} (bytes : rawBytes content = .ok raw) {chunks : List ChunkRef} :
    (∃ plan, p.partition (.read source) content = .ok plan ∧ plan.chunks = chunks) ↔
      Partitionable source (valueOf p.maxLines) (valueOf p.maxBytes) p.maxChunks.value raw ∧
        Laid source 1 0 (runsFrom (Within p) [] (splitLines raw)) chunks := by
  have started : raw ≠ [] → (runsFrom (Within p) [] (splitLines raw)).flatten ≠ [] := by
    intro some_
    rw [runsFrom_flatten]
    exact splitLines_ne_nil some_
  unfold ChunkPartitioner.partition
  simp only [sourceOf, ok_bind, bytes]
  constructor
  · rintro ⟨plan, made, rfl⟩
    simp only [bind_ok, ensure_ok] at made
    obtain ⟨-, digest, -, some_, chunks, loop, final⟩ := made
    obtain ⟨short, count, laid⟩ := (chunksOf_ok (splitLines_filled raw)).mp loop
    obtain ⟨distinct, same⟩ :=
      (partition_make_ok p.policy (laid.ne_nil (started some_)) laid).mp ⟨plan, final, rfl⟩
    refine ⟨⟨digest, some_, short, by exact_mod_cast count, ?_⟩, same ▸ laid⟩
    intro others again
    rwa [again.unique laid]
  · rintro ⟨accepted, laid⟩
    have distinct := accepted.distinct chunks laid
    obtain ⟨plan, made, same⟩ :=
      (partition_make_ok p.policy (laid.ne_nil (started accepted.content)) laid).mpr
        ⟨distinct, rfl⟩
    have loop : p.chunksOf source (splitLines raw) = .ok chunks :=
      (chunksOf_ok (splitLines_filled raw)).mpr
        ⟨accepted.short, by exact_mod_cast accepted.count, laid⟩
    refine ⟨plan, ?_, same⟩
    rw [ensure_of accepted.digest, ok_bind, ensure_of accepted.content, ok_bind, loop, ok_bind]
    exact made

/-- A partition is made of a source and a text that could be read. -/
theorem partition_reads {p : ChunkPartitioner} {source : Reading StandardsSourceRef}
    {content : Content} {plan : ChunkPartition} (made : p.partition source content = .ok plan) :
    ∃ bound raw, source = .read bound ∧ rawBytes content = .ok raw := by
  unfold ChunkPartitioner.partition at made
  simp only [bind_ok] at made
  obtain ⟨bound, read, raw, bytes, -⟩ := made
  cases source with
  | read value => exact ⟨value, raw, rfl, bytes⟩
  | refused reason => cases read

/-- The runs of short lines are greedy. -/
theorem Partitionable.greedy {source : StandardsSourceRef} {p : ChunkPartitioner} {raw : Bytes}
    {maxChunks : Int} (accepted : Partitionable source (valueOf p.maxLines) (valueOf p.maxBytes)
      maxChunks raw) : Greedy (Within p) (splitLines raw) (runsFrom (Within p) [] (splitLines raw)) :=
  greedy_runsFrom (fun empty => absurd rfl empty) fun unit member =>
    within_single (accepted.short unit member)

/-- What a partition says about its inputs, and where its chunks are. -/
theorem partitionChunks_ok {source : Reading StandardsSourceRef} {content : Content}
    {maxLines maxBytes : Option Int} {maxChunks : Int} {plan : ChunkPartition}
    (made : partitionChunks source content maxLines maxBytes maxChunks = .ok plan) :
    Limits maxLines maxBytes maxChunks ∧ ∃ bound raw, source = .read bound ∧
      rawBytes content = .ok raw ∧ Partitionable bound maxLines maxBytes maxChunks raw ∧
      GreedyPlan maxLines maxBytes raw plan.chunks := by
  unfold partitionChunks at made
  obtain ⟨p, constructed, partition⟩ := bind_ok.mp made
  have limits := exists_make.mp ⟨p, constructed⟩
  obtain ⟨rfl, rfl, rfl⟩ := make_ok.mp constructed
  obtain ⟨bound, raw, rfl, bytes⟩ := partition_reads partition
  obtain ⟨accepted, laid⟩ := (partition_ok bytes).mp ⟨plan, partition, rfl⟩
  exact ⟨limits, bound, raw, rfl, bytes, accepted,
    laid.greedyPlan accepted.content accepted.greedy⟩

/-- Inputs that are as they should be have a partition. -/
theorem exists_partitionChunks {bound : StandardsSourceRef} {content : Content} {raw : Bytes}
    {maxLines maxBytes : Option Int} {maxChunks : Int} (limits : Limits maxLines maxBytes maxChunks)
    (bytes : rawBytes content = .ok raw)
    (accepted : Partitionable bound maxLines maxBytes maxChunks raw) :
    ∃ plan, partitionChunks (.read bound) content maxLines maxBytes maxChunks = .ok plan := by
  obtain ⟨p, made⟩ := exists_make.mpr limits
  obtain ⟨rfl, rfl, rfl⟩ := make_ok.mp made
  have greedy := accepted.greedy
  have filled : ∀ unit ∈ (runsFrom (Within p) [] (splitLines raw)).flatten, unit ≠ [] := by
    rw [greedy.whole]
    exact splitLines_filled raw
  obtain ⟨chunks, laid⟩ : ∃ chunks,
      Laid bound 1 0 (runsFrom (Within p) [] (splitLines raw)) chunks :=
    exists_laid le_rfl greedy.nonempty filled
  obtain ⟨plan, partition, -⟩ := (partition_ok bytes).mpr ⟨accepted, laid⟩
  exact ⟨plan, bind_ok.mpr ⟨p, made, partition⟩⟩

/-- A partition of a text within given bounds is its greedy partition. There is one iff the
bounds are within the limits and the source, its lines and its chunks are as they should. -/
theorem partition_greedy (source : Reading StandardsSourceRef) (content : Content)
    (maxLines maxBytes : Option Int) (maxChunks : Int) :
    (∀ plan, partitionChunks source content maxLines maxBytes maxChunks = .ok plan →
      ∃ raw, rawBytes content = .ok raw ∧ GreedyPlan maxLines maxBytes raw plan.chunks) ∧
    ((∃ plan, partitionChunks source content maxLines maxBytes maxChunks = .ok plan) ↔
      Limits maxLines maxBytes maxChunks ∧ ∃ bound raw, source = .read bound ∧
        rawBytes content = .ok raw ∧ Partitionable bound maxLines maxBytes maxChunks raw) := by
  refine ⟨?_, ?_, ?_⟩
  · intro plan made
    obtain ⟨-, -, raw, -, bytes, -, greedy⟩ := partitionChunks_ok made
    exact ⟨raw, bytes, greedy⟩
  · rintro ⟨plan, made⟩
    obtain ⟨limits, bound, raw, read, bytes, accepted, -⟩ := partitionChunks_ok made
    exact ⟨limits, bound, raw, read, bytes, accepted⟩
  · rintro ⟨limits, bound, raw, rfl, bytes, accepted⟩
    exact exists_partitionChunks limits bytes accepted

end Plans

/-! ## A source of many lines -/

@[reducible] def partitionHash : Sha256 := ⟨fun _ => 0⟩
@[reducible] def lengthDigest : ByteHash := ⟨List.length⟩

/-- `n` empty lines. -/
def emptyLines (n : Nat) : Bytes := List.replicate n 10

def emptyLinesSource (n : Nat) : StandardsSourceRef where
  repository := "repo"
  commitSha := "0123456789012345678901234567890123456789"
  path := "a"
  blobDigest := @rawDigest lengthDigest (emptyLines n)
  identified := by decide
  commit := by decide
  safe := by decide

/-- Two lines are one chunk where both bounds allow two. -/
theorem partition_greedy_two : ∃ plan,
    @partitionChunks partitionHash lengthDigest (.read (emptyLinesSource 2)) (.bytes [10, 10])
      (some 2) (some 2) 64 = .ok plan ∧
    @GreedyPlan lengthDigest (some 2) (some 2) [10, 10] plan.chunks := by
  have runs : runsFrom (Fits (some 2) (some 2)) [] (splitLines [10, 10]) = [[[10], [10]]] := by
    decide
  have accepted : @Partitionable partitionHash lengthDigest (emptyLinesSource 2) (some 2) (some 2)
      64 [10, 10] := by
    have count : ((runsFrom (Fits (some 2) (some 2)) [] (splitLines [10, 10])).length : Int) ≤ 64 := by
      rw [runs]
      decide
    refine @Partitionable.mk partitionHash lengthDigest _ _ _ _ _ rfl (by decide)
      (by decide) count ?_
    intro chunks laid
    rw [runs] at laid
    cases laid with
    | cons first others =>
      cases others
      exact List.nodup_singleton _
  have limits : Limits (some 2) (some 2) 64 :=
    ⟨.inl (Option.some_ne_none _), by decide, by decide, by decide⟩
  obtain ⟨plan, made⟩ := (@partition_greedy partitionHash lengthDigest
    (.read (emptyLinesSource 2)) (.bytes [10, 10]) (some 2) (some 2) 64).2.mpr
    ⟨limits, _, _, rfl, rfl, accepted⟩
  obtain ⟨raw, bytes, greedy⟩ := (@partition_greedy partitionHash lengthDigest
    (.read (emptyLinesSource 2)) (.bytes [10, 10]) (some 2) (some 2) 64).1 plan made
  cases bytes
  exact ⟨plan, made, greedy⟩

/-- 65 lines of one byte are refused under bounds of one line and one byte a chunk. -/
theorem many_lines_refused : ¬ ∀ (source : StandardsSourceRef) (content : Content) (raw : Bytes)
    (maxLines maxBytes : Int), 0 < maxLines → 0 < maxBytes → rawBytes content = .ok raw →
    @rawDigest lengthDigest raw = source.blobDigest →
    (∃ plan, @partitionChunks partitionHash lengthDigest (.read source) content (some maxLines)
        (some maxBytes) 64 = .ok plan ∧
      @GreedyPlan lengthDigest (some maxLines) (some maxBytes) raw plan.chunks) ∨
    (∀ plan, @partitionChunks partitionHash lengthDigest (.read source) content (some maxLines)
        (some maxBytes) 64 ≠ .ok plan) ∧
      ∃ line ∈ splitLines raw, maxBytes < (line.length : Int) := by
  intro claimed
  have runs : (runsFrom (Fits (some 1) (some 1)) [] (splitLines (emptyLines 65))).length = 65 := by
    decide
  have lines : ∀ line ∈ splitLines (emptyLines 65), line.length = 1 := by decide
  rcases claimed (emptyLinesSource 65) (.bytes (emptyLines 65)) (emptyLines 65) 1 1 (by decide)
    (by decide) rfl rfl with ⟨plan, made, -⟩ | ⟨-, line, member, long⟩
  · obtain ⟨-, bound, raw, -, bytes, accepted, -⟩ :=
      @partitionChunks_ok partitionHash lengthDigest _ _ _ _ _ _ made
    cases bytes
    have count := @Partitionable.count partitionHash lengthDigest _ _ _ _ _ accepted
    rw [runs] at count
    exact absurd count (by decide)
  · rw [lines line member] at long
    exact absurd long (by decide)

end DwSuperApps.Guarantees.ChunkGreedy
