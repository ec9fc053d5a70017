import DwSuperApps.Source.OfflineInstaller

/-!
# What an interrupted installation leaves

The old package is removed before the new one is unpacked, so a run that replaces anything
goes through a state with nothing at the store path (`clear_cases`). A run that removes nothing
is safe wherever it stops, and what it installs is left alone by the next one if the archive
unpacks every file of its manifest to the file's own place (`install_iff`).
-/
namespace DwSuperApps.Guarantees.InstallSafety

open DwSuperApps.Lib DwSuperApps.Lib.Checked
open DwSuperApps.Source.OfflineInstaller
open DwSuperApps.Source.Chunking (Bytes ByteHash)

/-! ## Extraction -/

/-- The file that the last of the members unpacked to a path holds. -/
def lastMember (root : Option String) (archive : List Info) (path : Path) : Option File :=
  ((archive.filter fun info => info.isDir = false ∧
    (targetParts root info).bind resolve = some path).getLast?).map Info.file

theorem mkdirs_files {content made : Content} {path : Path} (done : mkdirs content path = .ok made) :
    made.files = content.files := by
  unfold mkdirs at done
  obtain ⟨_, -, done⟩ := bind_ok.mp done
  cases done
  rfl

theorem write_files {content made : Content} {path : Path} {file : File}
    (done : write content path file = .ok made) : made.files = content.files.set path file := by
  unfold write at done
  obtain ⟨above, created, done⟩ := bind_ok.mp done
  obtain ⟨_, -, done⟩ := bind_ok.mp done
  cases done
  rw [← mkdirs_files created]

/-- What one member changes. -/
theorem unpackMember_files {root : Option String} {content made : Content} {info : Info}
    (done : unpackMember root content info = .ok made) (path : Path) :
    made.files.get? path =
      if info.isDir = false ∧ (targetParts root info).bind resolve = some path then some info.file
      else content.files.get? path := by
  unfold unpackMember at done
  cases parts : targetParts root info with
  | none =>
    rw [parts] at done
    cases done
    simp
  | some parts' =>
    rw [parts] at done
    dsimp only at done
    rw [Option.bind_some]
    cases place : resolve parts' with
    | none =>
      rw [place] at done
      cases done
    | some reached =>
      rw [place] at done
      dsimp only at done
      cases kind : info.isDir with
      | true =>
        rw [kind, if_pos rfl] at done
        simp [mkdirs_files done]
      | false =>
        rw [kind, if_neg Bool.false_ne_true] at done
        rw [write_files done, Dict.get?_set]
        simp [eq_comm]

theorem unpack_files {root : Option String} {content made : Content} {archive : List Info}
    (done : unpack root content archive = .ok made) (path : Path) :
    made.files.get? path = (lastMember root archive path).or (content.files.get? path) := by
  induction archive generalizing content with
  | nil =>
    cases done
    rfl
  | cons info rest ih =>
    unfold unpack at done
    obtain ⟨next, first, later⟩ := bind_ok.mp done
    rw [ih later, unpackMember_files first]
    unfold lastMember
    rw [List.filter_cons]
    split
    · next here =>
      rw [if_pos (decide_eq_true here), List.getLast?_cons]
      cases (rest.filter _).getLast? <;> rfl
    · next elsewhere => rw [if_neg (by simpa using elsewhere)]

/-! ## The check of what is installed -/

section
variable [ByteHash] {disk : Disk} {component : Component} {target : Option Target} {repair : Bool}
  {manifest : Json} {sha : String}

/-- The file at a path of the installed package. -/
def placedAt (disk : Disk) (component : Component) (version : Json) (sha : String) (path : Path) :
    Option File :=
  if path = markerPath then some (markerFile component.name version sha disk.epoch)
  else lastMember (stripRoot component.archive) component.archive path

omit [ByteHash] in
theorem stage_files {content : Content} (done : stage disk component manifest sha = .ok content) :
    ∃ metadata version, item manifest "metadata" = .ok metadata ∧ item metadata "version" = .ok version ∧
      ∀ path, content.files.get? path = placedAt disk component version sha path := by
  unfold stage installComponent at done
  obtain ⟨unpacked, extracted, done⟩ := bind_ok.mp done
  obtain ⟨metadata, held, done⟩ := bind_ok.mp done
  obtain ⟨version, named, done⟩ := bind_ok.mp done
  obtain ⟨_, -, extracted⟩ := bind_ok.mp extracted
  refine ⟨metadata, version, held, named, ?_⟩
  intro path
  rw [write_files done, Dict.get?_set, unpack_files extracted, Dict.get?_empty, Option.or_none]
  rfl

/-- Every file of the manifest is at its place with its size and hash, and every entrypoint
is a file. -/
structure Placed (disk : Disk) (component : Component) (manifest version : Json) (sha : String) : Prop where
  files : ∃ entries, fileEntries manifest = .ok entries ∧ ∀ entry ∈ entries, ∃ relative path file,
    entryPath entry = .ok relative ∧ locate relative = some path ∧
      placedAt disk component version sha path = some file ∧ fits file entry = .ok true
  entries : ∃ given, entrypoints manifest = .ok given ∧ ∀ entrypoint ∈ given,
    (locate (text entrypoint) = none ∧ disk.outside (text entrypoint) = true) ∨
      ∃ path file, locate (text entrypoint) = some path ∧ placedAt disk component version sha path = some file

theorem installedFile_ok {content : Content} {powerId : String} {entry : Json} :
    installedFile content powerId entry = .ok () ↔ ∃ relative path file, entryPath entry = .ok relative ∧
      locate relative = some path ∧ content.files.get? path = some file ∧ fits file entry = .ok true := by
  unfold installedFile
  rw [bind_ok]
  constructor
  · rintro ⟨relative, named, checked⟩
    cases place : locate relative with
    | none =>
      rw [place] at checked
      cases checked
    | some path =>
      rw [place] at checked
      dsimp only at checked
      cases held : content.files.get? path with
      | none =>
        rw [held] at checked
        cases checked
      | some file =>
        rw [held] at checked
        obtain ⟨same, compared, right⟩ := bind_ok.mp checked
        exact ⟨relative, path, file, named, place, held, by rw [compared, ensure_ok.mp right]⟩
  · rintro ⟨relative, path, file, named, place, held, fitting⟩
    refine ⟨relative, named, ?_⟩
    rw [place]
    dsimp only
    rw [held]
    dsimp only
    rw [fitting, ok_bind, ensure_of rfl]

omit [ByteHash] in
theorem isEntrypoint_true {outside : String → Bool} {content : Content} {entrypoint : String} :
    isEntrypoint outside content entrypoint = true ↔
      (locate entrypoint = none ∧ outside entrypoint = true) ∨
        ∃ path file, locate entrypoint = some path ∧ content.files.get? path = some file := by
  unfold isEntrypoint
  cases locate entrypoint with
  | none => simp
  | some path => simp [Option.isSome_iff_exists]

/-- What was just installed passes the check exactly when everything is at its place. -/
theorem verify_installed_iff {content : Content} {version : Json}
    (held : ∀ path, content.files.get? path = placedAt disk component version sha path) :
    verifyInstalledPackage disk.outside content component.name manifest = .ok () ↔
      Placed disk component manifest version sha := by
  unfold verifyInstalledPackage
  simp only [bind_ok, checkAll_ok, installedFile_ok, ensure_ok, isEntrypoint_true, held,
    Unique.exists_iff]
  constructor
  · rintro ⟨entries, named, placed, given, listed, found⟩
    exact ⟨⟨entries, named, placed⟩, ⟨given, listed, found⟩⟩
  · rintro ⟨⟨entries, named, placed⟩, ⟨given, listed, found⟩⟩
    exact ⟨entries, named, placed, given, listed, found⟩

/-! ## What happens to the old package -/

/-- A package directory stays: its marker names the release and its files are intact. -/
def Intact (disk : Disk) (component : Component) (manifest : Json) (sha : String) (content : Content) : Prop :=
  ∃ marker, previousMarker content = .ok marker ∧ sameSource marker sha = .ok true ∧
    verifyInstalledPackage disk.outside content component.name manifest = .ok ()

/-- A package directory is removed: it is damaged, of another release, or not managed. -/
def Outdated (disk : Disk) (component : Component) (repair : Bool) (manifest : Json) (sha : String)
    (content : Content) : Prop :=
  ∃ marker, previousMarker content = .ok marker ∧
    ((sameSource marker sha = .ok true ∧ repair = true ∧
        ∃ message, verifyInstalledPackage disk.outside content component.name manifest = .error (.setup message)) ∨
      (sameSource marker sha = .ok false ∧ (truthy marker = true ∨ repair = true)))

/-- What stands at the store path is removed before the new package is there. -/
def Removing (disk : Disk) (component : Component) (repair : Bool) (manifest : Json) (sha : String) :
    Store → Prop
  | .absent => False
  | .link _ => repair = true
  | .file _ => repair = true
  | .dir content => Outdated disk component repair manifest sha content

theorem replace_iff {content : Content} {removal : List Store} {action : Action} {removed : List Store} :
    replacePackage disk component repair manifest sha content removal = .ok (action, removed) ↔
      (action = .unchanged ∧ removed = [] ∧ Intact disk component manifest sha content) ∨
        (action = .replaced ∧ removed = removal ∧ Outdated disk component repair manifest sha content) := by
  unfold replacePackage Intact Outdated
  rw [bind_ok]
  constructor
  · rintro ⟨marker, marked, done⟩
    obtain ⟨same, source, done⟩ := bind_ok.mp done
    cases same with
    | true =>
      rw [if_pos rfl] at done
      split at done
      · next verified =>
        cases done
        exact .inl ⟨rfl, rfl, marker, marked, source, verified⟩
      · next message failed =>
        split at done
        · next allowed =>
          cases done
          exact .inr ⟨rfl, rfl, marker, marked, .inl ⟨source, allowed, message, failed⟩⟩
        · cases done
      · cases done
    | false =>
      rw [if_neg Bool.false_ne_true] at done
      obtain ⟨_, allowed, done⟩ := bind_ok.mp done
      cases done
      exact .inr ⟨rfl, rfl, marker, marked, .inr ⟨source, ensure_ok.mp allowed⟩⟩
  · rintro (⟨rfl, rfl, marker, marked, source, verified⟩ | ⟨rfl, rfl, marker, marked, reason⟩)
    · refine ⟨marker, marked, ?_⟩
      rw [source, ok_bind, if_pos rfl, verified]
    · refine ⟨marker, marked, ?_⟩
      rcases reason with ⟨source, allowed, message, failed⟩ | ⟨source, allowed⟩
      · rw [source, ok_bind, if_pos rfl, failed]
        exact if_pos allowed
      · rw [source, ok_bind, if_neg Bool.false_ne_true, ensure_of allowed, ok_bind]

/-- What is done to the store path: nothing, or a removal that ends with nothing there. -/
theorem clear_iff {store : Store} {action : Action} {removed : List Store} :
    clearDestination disk component repair manifest sha store = .ok (action, removed) →
      (∃ content, store = .dir content ∧ action = .unchanged ∧ removed = [] ∧
        Intact disk component manifest sha content) ∨
      (store = .absent ∧ action = .installed ∧ removed = []) ∨
      (action ≠ .unchanged ∧ Store.absent ∈ removed ∧ Removing disk component repair manifest sha store) := by
  intro done
  cases store with
  | absent =>
    cases done
    exact .inr (.inl ⟨rfl, rfl, rfl⟩)
  | link points =>
    obtain ⟨_, allowed, done⟩ := bind_ok.mp done
    cases done
    have repaired : repair = true := ensure_ok.mp allowed
    exact .inr (.inr ⟨nofun, List.mem_singleton_self _, repaired⟩)
  | file held =>
    rcases replace_iff.mp done with ⟨-, -, marker, marked, source, -⟩ | ⟨rfl, rfl, marker, marked, reason⟩
    · cases marked
      cases source
    · cases marked
      rcases reason with ⟨source, -⟩ | ⟨-, managed | allowed⟩
      · cases source
      · cases managed
      · exact .inr (.inr ⟨nofun, List.mem_singleton_self _, allowed⟩)
  | dir content =>
    rcases replace_iff.mp done with ⟨rfl, rfl, intact⟩ | ⟨rfl, rfl, outdated⟩
    · exact .inl ⟨content, rfl, rfl, rfl, intact⟩
    · exact .inr (.inr ⟨nofun, List.mem_append_right _ (List.mem_singleton_self _), outdated⟩)

/-- A removal is carried out. -/
theorem clear_removing {store : Store} (removing : Removing disk component repair manifest sha store) :
    ∃ action removed, clearDestination disk component repair manifest sha store = .ok (action, removed) ∧
      action ≠ .unchanged ∧ Store.absent ∈ removed ∧ store ≠ .absent := by
  cases store with
  | absent => exact absurd removing not_false
  | link points =>
    have repaired : repair = true := removing
    exact ⟨.installed, [.absent], bind_ok.mpr ⟨(), ensure_of repaired _, rfl⟩, nofun,
      List.mem_singleton_self _, nofun⟩
  | file held =>
    have outdated : Outdated disk component repair manifest sha {} := ⟨.null, rfl, .inr ⟨rfl, .inr removing⟩⟩
    exact ⟨.replaced, [.absent], replace_iff.mpr (.inr ⟨rfl, rfl, outdated⟩), nofun,
      List.mem_singleton_self _, nofun⟩
  | dir content =>
    exact ⟨.replaced, rmtree disk content, replace_iff.mpr (.inr ⟨rfl, rfl, removing⟩), nofun,
      List.mem_append_right _ (List.mem_singleton_self _), nofun⟩

/-! ## The next run -/

omit [ByteHash] in
/-- The marker of a new package is read back and names the release. -/
theorem marker_read {content : Content} {version : Json}
    (held : ∀ path, content.files.get? path = placedAt disk component version sha path) :
    ∃ marker, previousMarker content = .ok marker ∧ sameSource marker sha = .ok true := by
  have file : content.files.get? markerPath =
      some (markerFile component.name version sha disk.epoch) := (held markerPath).trans (if_pos rfl)
  unfold previousMarker
  rw [file]
  refine ⟨_, rfl, ?_⟩
  unfold Json.sortKeys
  set members := Json.sortMembers _ with sorted
  have named : Json.member members "sourceManifestSha256" = some (.str sha) := by
    rw [sorted, Json.member_sortMembers]
    rfl
  have marked : truthy (.obj members) = true := by
    cases listed : members with
    | nil =>
      rw [listed] at named
      cases named
    | cons first rest => rfl
  have found : getOr (.obj members) "sourceManifestSha256" .null = .ok (.str sha) := by
    unfold getOr
    dsimp only
    rw [named, Option.getD_some]
  unfold sameSource
  rw [if_pos marked, found, ok_bind]
  exact congrArg Except.ok (decide_eq_true rfl)

omit [ByteHash] in
/-- Whether there is a report does not depend on what was done. -/
theorem report_ok {action other : Action} {result : InstallResult}
    (made : report disk component target manifest action = .ok result) :
    report disk component target manifest other = .ok { result with action := other } := by
  unfold report at made ⊢
  obtain ⟨metadata, held, made⟩ := bind_ok.mp made
  obtain ⟨version, named, made⟩ := bind_ok.mp made
  rw [held, ok_bind, named, ok_bind]
  cases target with
  | none =>
    cases made
    rfl
  | some target =>
    obtain ⟨spec, part, made⟩ := bind_ok.mp made
    obtain ⟨root, below, made⟩ := bind_ok.mp made
    dsimp only
    rw [part, ok_bind, below, ok_bind]
    cases place : target.runtime (text root) with
    | none =>
      rw [place] at made
      cases made
    | some runtime =>
      rw [place] at made
      cases made
      rfl

/-! ## Whole runs -/

/-- A new package that the release unpacks to. -/
def IsNew (disk : Disk) (component : Component) (store : Store) : Prop :=
  ∃ manifest bytes content,
    verifyPackageArchive component.package component.archive component.name = .ok (manifest, bytes) ∧
      stage disk component manifest (sha256 bytes) = .ok content ∧ store = .dir content

/-- Wherever the run stops, the store path holds what it held or the new package. -/
def Safe (disk : Disk) (component : Component) (target : Option Target) (repair : Bool) (store : Store) : Prop :=
  ∀ s ∈ (installPowerForSetup disk component target repair store).visited, s = store ∨ IsNew disk component s

/-- After a success the next run, whenever it is and whether it may repair or not, leaves the
store path alone and says so. -/
def Settled (disk : Disk) (component : Component) (target : Option Target) (repair : Bool) (store : Store) :
    Prop :=
  let run := installPowerForSetup disk component target repair store
  ∀ result, run.outcome = .ok result → ∀ epoch again,
    let next := installPowerForSetup { disk with epoch := epoch } component target again (run.leaves store)
    next.visited = [] ∧ next.outcome = .ok { result with action := .unchanged }

/-- What was there is removed before the new package is there. -/
def Removes (disk : Disk) (component : Component) (repair : Bool) (store : Store) : Prop :=
  ∃ manifest bytes,
    verifyPackageArchive component.package component.archive component.name = .ok (manifest, bytes) ∧
      Removing disk component repair manifest (sha256 bytes) store

/-- A package that is reported as installed has every file at its place. -/
def Lands (disk : Disk) (component : Component) (target : Option Target) : Prop :=
  ∀ manifest bytes content metadata version result,
    verifyPackageArchive component.package component.archive component.name = .ok (manifest, bytes) →
    stage disk component manifest (sha256 bytes) = .ok content →
    item manifest "metadata" = .ok metadata → item metadata "version" = .ok version →
    report disk component target manifest .installed = .ok result →
    Placed disk component manifest version (sha256 bytes)

/-- A package that stays is left alone by every later run. -/
theorem intact_run {content : Content} {bytes : Bytes} {result : InstallResult} {action : Action}
    (verified : verifyPackageArchive component.package component.archive component.name = .ok (manifest, bytes))
    (intact : Intact disk component manifest (sha256 bytes) content)
    (reported : report disk component target manifest action = .ok result) (epoch : Int) (again : Bool) :
    installPowerForSetup { disk with epoch := epoch } component target again (.dir content) =
      ⟨[], .ok { result with action := .unchanged }⟩ := by
  have stays : clearDestination { disk with epoch := epoch } component again manifest (sha256 bytes)
      (.dir content) = .ok (.unchanged, []) := replace_iff.mpr (.inl ⟨rfl, rfl, intact⟩)
  have said : report { disk with epoch := epoch } component target manifest .unchanged =
      .ok { result with action := .unchanged } := report_ok reported
  unfold installPowerForSetup
  rw [verified]
  dsimp only
  rw [stays]
  dsimp only
  rw [said]

/-- A run that removes something passes through a state with nothing at the store path. -/
theorem removes_visited {store : Store} (target : Option Target)
    (removes : Removes disk component repair store) :
    Store.absent ∈ (installPowerForSetup disk component target repair store).visited ∧ store ≠ .absent := by
  obtain ⟨manifest, bytes, verified, removing⟩ := removes
  obtain ⟨action, removed, cleared, changed, gone, present⟩ := clear_removing removing
  refine ⟨?_, present⟩
  unfold installPowerForSetup
  rw [verified]
  dsimp only
  rw [cleared]
  cases action with
  | unchanged => exact absurd rfl changed
  | installed =>
    dsimp only
    split
    · exact gone
    · exact List.mem_append_left _ gone
  | replaced =>
    dsimp only
    split
    · exact gone
    · exact List.mem_append_left _ gone

theorem not_safe_of_removes {store : Store} (removes : Removes disk component repair store) :
    ¬ Safe disk component target repair store := by
  obtain ⟨visited, present⟩ := removes_visited target removes
  intro safe
  rcases safe _ visited with same | ⟨_, _, content, -, -, new⟩
  · exact present same.symm
  · cases new

/-- Every run that removes nothing is safe, and settled if what it installs lands. -/
theorem safe_and_settled {store : Store} (kept : ¬ Removes disk component repair store)
    (lands : store = .absent → Lands disk component target) :
    Safe disk component target repair store ∧ Settled disk component target repair store := by
  unfold Safe Settled
  cases verified : verifyPackageArchive component.package component.archive component.name with
  | error fault =>
    have stopped : installPowerForSetup disk component target repair store = ⟨[], .error fault⟩ := by
      unfold installPowerForSetup
      rw [verified]
    rw [stopped]
    exact ⟨fun s member => absurd member List.not_mem_nil, fun result done => by cases done⟩
  | ok checked =>
    obtain ⟨manifest, bytes⟩ := checked
    cases cleared : clearDestination disk component repair manifest (sha256 bytes) store with
    | error fault =>
      have stopped : installPowerForSetup disk component target repair store = ⟨[], .error fault⟩ := by
        unfold installPowerForSetup
        rw [verified]
        dsimp only
        rw [cleared]
      rw [stopped]
      exact ⟨fun s member => absurd member List.not_mem_nil, fun result done => by cases done⟩
    | ok plan =>
      obtain ⟨action, removed⟩ := plan
      rcases clear_iff cleared with ⟨content, rfl, rfl, rfl, intact⟩ | ⟨rfl, rfl, rfl⟩ | ⟨-, -, removing⟩
      · have stays : installPowerForSetup disk component target repair (.dir content) =
            ⟨[], report disk component target manifest .unchanged⟩ := by
          unfold installPowerForSetup
          rw [verified]
          dsimp only
          rw [cleared]
        rw [stays]
        refine ⟨fun s member => absurd member List.not_mem_nil, ?_⟩
        intro run result done epoch again
        have next : installPowerForSetup { disk with epoch := epoch } component target again (.dir content) =
            ⟨[], .ok { result with action := .unchanged }⟩ := intact_run verified intact done epoch again
        exact ⟨congrArg Run.visited next, congrArg Run.outcome next⟩
      · cases staged : stage disk component manifest (sha256 bytes) with
        | error fault =>
          have stopped : installPowerForSetup disk component target repair .absent = ⟨[], .error fault⟩ := by
            unfold installPowerForSetup
            rw [verified]
            dsimp only
            rw [cleared]
            dsimp only
            rw [staged]
          rw [stopped]
          exact ⟨fun s member => absurd member List.not_mem_nil, fun result done => by cases done⟩
        | ok content =>
          have installs : installPowerForSetup disk component target repair .absent =
              ⟨[.dir content], report disk component target manifest .installed⟩ := by
            unfold installPowerForSetup
            rw [verified]
            dsimp only
            rw [cleared]
            dsimp only
            rw [staged]
            rfl
          rw [installs]
          refine ⟨?_, ?_⟩
          · intro s member
            rw [List.mem_singleton.mp member]
            exact .inr ⟨manifest, bytes, content, verified, staged, rfl⟩
          · intro run result done epoch again
            obtain ⟨metadata, version, part, named, held⟩ := stage_files staged
            have placed := lands rfl _ _ _ _ _ _ verified staged part named done
            obtain ⟨marker, read, same⟩ := marker_read held
            have next : installPowerForSetup { disk with epoch := epoch } component target again (.dir content) =
                ⟨[], .ok { result with action := .unchanged }⟩ := intact_run verified
              ⟨marker, read, same, (verify_installed_iff held).mpr placed⟩ done epoch again
            exact ⟨congrArg Run.visited next, congrArg Run.outcome next⟩
      · exact absurd ⟨manifest, bytes, verified, removing⟩ kept

/-- A settled installation into nothing lands. -/
theorem lands_of_settled (settled : Settled disk component target repair .absent) :
    Lands disk component target := by
  intro manifest bytes content metadata version result verified staged part named reported
  obtain ⟨metadata', version', part', named', held⟩ := stage_files staged
  cases part.symm.trans part'
  cases named.symm.trans named'
  have installs : installPowerForSetup disk component target repair .absent =
      ⟨[.dir content], report disk component target manifest .installed⟩ := by
    unfold installPowerForSetup
    rw [verified]
    dsimp only
    unfold clearDestination
    dsimp only
    rw [staged]
    rfl
  unfold Settled at settled
  rw [installs] at settled
  obtain ⟨still, said⟩ := settled result reported disk.epoch true
  change (installPowerForSetup disk component target true (.dir content)).visited = [] at still
  change (installPowerForSetup disk component target true (.dir content)).outcome = _ at said
  cases cleared : clearDestination disk component true manifest (sha256 bytes) (.dir content) with
  | error fault =>
    unfold installPowerForSetup at said
    rw [verified] at said
    dsimp only at said
    rw [cleared] at said
    cases said
  | ok plan =>
    obtain ⟨action, removed⟩ := plan
    rcases clear_iff cleared with ⟨_, there, -, -, marker, -, -, intact⟩ | ⟨absent, -⟩ | ⟨-, -, removing⟩
    · cases there
      exact (verify_installed_iff held).mp intact
    · cases absent
    · have gone := (removes_visited target ⟨manifest, bytes, verified, removing⟩).1
      rw [still] at gone
      exact absurd gone List.not_mem_nil

/-- An interrupted installation leaves the old or the new package, and a finished one is left
alone by the next, exactly when nothing is removed and what is installed into nothing lands. -/
theorem install_iff (disk : Disk) (component : Component) (target : Option Target) (repair : Bool)
    (store : Store) :
    (Safe disk component target repair store ∧ Settled disk component target repair store) ↔
      ¬ Removes disk component repair store ∧ (store = .absent → Lands disk component target) := by
  constructor
  · rintro ⟨safe, settled⟩
    refine ⟨fun removes => not_safe_of_removes removes safe, ?_⟩
    rintro rfl
    exact lands_of_settled settled
  · exact fun ⟨kept, lands⟩ => safe_and_settled kept lands

end

/-! ## An older release in the store -/

@[reducible] def lengthHash : ByteHash := ⟨List.length⟩

def sampleDisk : Disk := ⟨"s/p", fun _ => false, fun _ => [], 0⟩

def sampleManifest : Json := .obj [
  ("metadata", .obj [("powerId", .str "p"), ("version", .str "2")]),
  ("spec", .obj [("runtimeDataRoot", .str ".p")]), ("files", .arr [])]

/-- A release of one package with nothing but its manifest. -/
def sampleComponent : Component where
  name := "p"
  package := "p.zip"
  archive := [{ filename := "MANIFEST.json", file := ⟨[1], .json sampleManifest⟩ }]

/-- A package directory with the marker of another release. -/
def olderContent : Content where
  files := ({} : Dict Path File).set markerPath
    ⟨[], .json (.obj [("sourceManifestSha256", .str "old")])⟩

theorem sample_verified :
    @verifyPackageArchive lengthHash "p.zip" sampleComponent.archive "p" = .ok (sampleManifest, [1]) := rfl

theorem older_differs [ByteHash] (raw : Bytes) :
    sameSource (.obj [("sourceManifestSha256", .str "old")]) (sha256 raw) = .ok false := by
  have other : ¬ Json.str "old" = .str (sha256 raw) := by
    intro same
    have chars : "old".toList = Digest.hexDigits 64 (ByteHash.bits raw) := by
      rw [Json.str.inj same]
      exact String.toList_ofList
    have digits := (Digest.hexDigits_shape 64 (ByteHash.bits raw)).1
    rw [← chars] at digits
    exact absurd digits (by decide)
  exact congrArg Except.ok (decide_eq_false other)

/-- A replacement that is interrupted leaves nothing. -/
theorem replacement_unsafe :
    ¬ ∀ [ByteHash] (disk : Disk) (component : Component) (target : Option Target) (repair : Bool) (store : Store),
      Safe disk component target repair store ∧ Settled disk component target repair store := by
  intro claimed
  let hash : ByteHash := lengthHash
  have safe := (claimed sampleDisk sampleComponent none false (.dir olderContent)).1
  refine not_safe_of_removes ⟨sampleManifest, [1], sample_verified, ?_⟩ safe
  exact ⟨_, rfl, .inr ⟨older_differs [1], .inl rfl⟩⟩

end DwSuperApps.Guarantees.InstallSafety
