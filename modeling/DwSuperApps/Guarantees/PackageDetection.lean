import DwSuperApps.Source.PowerDist

/-!
# What the check of a package detects

The manifest of a built tree names the files whose own name is not the manifest's, and the
check looks at these alone (`verify_iff`). A file called `MANIFEST.json` below the root may
come, go or change: the check passes exactly on the built tree unless the trees differ in
such files and in no other (`detects_iff`).
-/
namespace DwSuperApps.Guarantees.PackageDetection

open DwSuperApps.Lib DwSuperApps.Lib.Checked DwSuperApps.Lib.Sorted
open DwSuperApps.Source.PowerDist

/-- The bytes of the file at a path. -/
def bytesAt (tree : Tree) (path : String) : Option (List UInt8) :=
  (tree.files.get? path).map PackageFile.bytes

/-- The same files at every depth, with the same bytes. -/
def SameFiles (tree built : Tree) : Prop := ∀ path, bytesAt tree path = bytesAt built path

/-! ## The manifest of a tree -/

section
variable [PackageTools]

/-- What the manifest holds for a path. -/
theorem expected_built (recipe : Recipe) (files : Dict String PackageFile) (version : String)
    (pin : SourcePin) (path : String) :
    (expectedFiles (buildManifest recipe files version pin)).get? path =
      if fileName path ≠ manifestName then (files.get? path).map (manifestEntry path) else none := by
  unfold expectedFiles buildManifest
  rw [List.map_map]
  set kept := (sortedBy (fun entry => parts entry.1) files.entries).filter
    fun entry => fileName entry.1 ≠ manifestName
  have inside : ∀ file, (path, file) ∈ kept ↔ files.get? path = some file ∧ fileName path ≠ manifestName := by
    intro file
    rw [List.mem_filter, mem_sortedBy, ← Dict.get?_eq_some, decide_eq_true_eq]
  have names : (kept.map (fun entry : String × PackageFile => (entry.1, manifestEntry entry.1 entry.2))).map
      Prod.fst = kept.map Prod.fst := by
    rw [List.map_map]
    rfl
  have distinct : (kept.map Prod.fst).Nodup :=
    ((perm_sortedBy.map Prod.fst).nodup_iff.mpr files.distinct).sublist (List.filter_sublist.map _)
  change (({} : Dict String ManifestEntry).update
    (kept.map fun entry => (entry.1, manifestEntry entry.1 entry.2))).get? path = _
  apply Option.ext
  intro entry
  rw [Dict.get?_update_entries _ (by rw [names]; exact distinct), Dict.get?_empty, Option.or_none,
    Dict.lookup_eq_some (by rw [names]; exact distinct), List.mem_map]
  constructor
  · rintro ⟨⟨other, file⟩, member, same⟩
    simp only [Prod.mk.injEq] at same
    obtain ⟨rfl, rfl⟩ := same
    obtain ⟨held, named⟩ := (inside file).mp member
    rw [if_pos named, held]
    rfl
  · intro found
    split at found
    · next named =>
      obtain ⟨file, held, rfl⟩ := Option.map_eq_some_iff.mp found
      exact ⟨(path, file), (inside file).mpr ⟨held, named⟩, rfl⟩
    · cases found

/-! ## The check -/

/-- What the check asks of a manifest by itself. -/
structure Settled (manifest : PackageManifest) : Prop where
  schema : PackageTools.schemaErrors manifest = []
  entrypoints : ∀ entrypoint ∈ manifest.entrypoints, (expectedFiles manifest).contains entrypoint
  guidance : ∀ guidance ∈ manifest.agentGuidance, guidance ≠ "" → (expectedFiles manifest).contains guidance

/-- What the check asks of a tree: the files it looks at are the expected ones. -/
structure Matches (files : Dict String PackageFile) (expected : Dict String ManifestEntry) : Prop where
  paths : ∀ path, (∃ entry, expected.get? path = some entry) ↔
    (∃ file, files.get? path = some file) ∧ fileName path ≠ manifestName
  contents : ∀ path entry file, expected.get? path = some entry → files.get? path = some file →
    file.bytes.length = entry.size ∧ PackageTools.sha256File file.bytes = entry.sha256

omit [PackageTools] in
theorem mem_paths {α : Type} {d : Dict String α} {path : String} :
    path ∈ d.entries.map Prod.fst ↔ ∃ a, d.get? path = some a := by
  rw [List.mem_map]
  constructor
  · rintro ⟨⟨other, a⟩, member, rfl⟩
    exact ⟨a, Dict.get?_eq_some.mpr member⟩
  · rintro ⟨a, held⟩
    exact ⟨(path, a), Dict.get?_eq_some.mp held, rfl⟩

omit [PackageTools] in
theorem mem_actualPaths {files : Dict String PackageFile} {path : String} :
    path ∈ actualPaths files ↔ (∃ file, files.get? path = some file) ∧ fileName path ≠ manifestName := by
  unfold actualPaths
  rw [List.mem_filter, mem_paths, decide_eq_true_eq]

theorem checkFile_ok {files : Dict String PackageFile} {expected : String × ManifestEntry} {u : Unit} :
    checkFile files expected = .ok u ↔ ∃ file, files.get? expected.1 = some file ∧
      file.bytes.length = expected.2.size ∧ PackageTools.sha256File file.bytes = expected.2.sha256 := by
  unfold checkFile
  cases held : files.get? expected.1 with
  | none => simp
  | some file => simp only [bind_ok, ensure_ok, Option.some.injEq, Unique.exists_iff, exists_eq_left']

theorem verify_ok {tree : Tree} {manifest : PackageManifest} (held : tree.manifest = some manifest) :
    (∃ checked, verifyPackage tree = .ok checked) ↔
      Settled manifest ∧ Matches tree.files (expectedFiles manifest) := by
  unfold verifyPackage validateManifest
  rw [held]
  simp only [bind_ok, ensure_ok, checkAll_ok, Unique.exists_iff, checkFile_ok, List.filter_eq_nil_iff,
    decide_eq_true_eq, not_not, Except.ok.injEq, exists_and_left, exists_eq', and_true]
  constructor
  · rintro ⟨schema, ⟨missing, extra⟩, checked, entrypoints, guidance⟩
    refine ⟨⟨schema, entrypoints, guidance⟩, ?_, ?_⟩
    · intro path
      rw [← mem_actualPaths, ← mem_paths]
      exact ⟨missing path, extra path⟩
    · intro path entry file expected present
      obtain ⟨found, there, size, hash⟩ := checked (path, entry) (Dict.get?_eq_some.mp expected)
      cases Option.some.inj (present.symm.trans there)
      exact ⟨size, hash⟩
  · rintro ⟨⟨schema, entrypoints, guidance⟩, paths, contents⟩
    refine ⟨schema, ⟨?_, ?_⟩, ?_, entrypoints, guidance⟩
    · exact fun path member => mem_actualPaths.mpr ((paths path).mp (mem_paths.mp member))
    · exact fun path member => mem_paths.mpr ((paths path).mpr (mem_actualPaths.mp member))
    · rintro ⟨path, entry⟩ member
      have expected := Dict.get?_eq_some.mpr member
      obtain ⟨file, present⟩ := ((paths path).mp ⟨entry, expected⟩).1
      exact ⟨file, present, contents path entry file expected present⟩

/-! ## The built tree -/

theorem built {recipe : Recipe} {version : String} {pin : SourcePin} {selected : List SelectedFile}
    {templates : List (String × List UInt8)} {texts : List (List UInt8)} {tree : Tree}
    (made : buildStagingTree recipe version pin selected templates texts = .ok tree) :
    tree.manifest = some (buildManifest recipe tree.files version pin) ∧
      Settled (buildManifest recipe tree.files version pin) := by
  unfold buildStagingTree at made
  obtain ⟨_, valid, made⟩ := bind_ok.mp made
  obtain ⟨checked, verified, made⟩ := bind_ok.mp made
  cases made
  exact ⟨rfl, ((verify_ok rfl).mp ⟨checked, verified⟩).1⟩

/-- The files a check looks at are the expected ones exactly when they have the bytes of the
tree the manifest was made of. -/
theorem matches_iff (injective : Function.Injective PackageTools.sha256File)
    {files made : Dict String PackageFile} {recipe : Recipe} {version : String} {pin : SourcePin} :
    Matches files (expectedFiles (buildManifest recipe made version pin)) ↔
      ∀ path, fileName path ≠ manifestName →
        (files.get? path).map PackageFile.bytes = (made.get? path).map PackageFile.bytes := by
  constructor
  · rintro ⟨paths, contents⟩ path named
    have listed := paths path
    have given := contents path
    rw [expected_built, if_pos named] at listed given
    cases present : files.get? path with
    | none =>
      cases held : made.get? path with
      | none => rfl
      | some file =>
        rw [present, held] at listed
        obtain ⟨⟨found, absent⟩, -⟩ := listed.mp ⟨manifestEntry path file, rfl⟩
        cases absent
    | some file =>
      obtain ⟨entry, expected⟩ := listed.mpr ⟨⟨file, present⟩, named⟩
      have same := (given entry file expected present).2
      obtain ⟨original, held, rfl⟩ := Option.map_eq_some_iff.mp expected
      rw [held]
      exact congrArg some (injective same)
  · intro same
    refine ⟨?_, ?_⟩
    · intro path
      rw [expected_built]
      split
      · next named =>
        have agreed := same path named
        cases present : files.get? path with
        | none =>
          rw [present] at agreed
          rw [Option.map_eq_none_iff.mp agreed.symm]
          simp
        | some file =>
          rw [present] at agreed
          obtain ⟨original, held, -⟩ := Option.map_eq_some_iff.mp agreed.symm
          rw [held]
          exact ⟨fun _ => ⟨⟨file, rfl⟩, named⟩, fun _ => ⟨manifestEntry path original, rfl⟩⟩
      · next named => simp [named]
    · intro path entry file expected present
      rw [expected_built] at expected
      split at expected
      · next named =>
        obtain ⟨original, held, rfl⟩ := Option.map_eq_some_iff.mp expected
        have agreed := same path named
        rw [present, held] at agreed
        have bytes : file.bytes = original.bytes := Option.some.inj agreed
        unfold manifestEntry
        rw [bytes]
        exact ⟨rfl, rfl⟩
      · cases expected

/-- The check passes exactly when all files but those named like the manifest are the
built tree's. -/
theorem verify_iff (injective : Function.Injective PackageTools.sha256File)
    {recipe : Recipe} {version : String} {pin : SourcePin} {selected : List SelectedFile}
    {templates : List (String × List UInt8)} {texts : List (List UInt8)} {tree other : Tree}
    (made : buildStagingTree recipe version pin selected templates texts = .ok tree)
    (kept : other.manifest = tree.manifest) :
    (∃ checked, verifyPackage other = .ok checked) ↔
      ∀ path, fileName path ≠ manifestName → bytesAt other path = bytesAt tree path := by
  obtain ⟨held, settled⟩ := built made
  rw [verify_ok (kept.trans held), matches_iff injective]
  exact and_iff_right settled

/-- The check passes on the built tree and on nothing else exactly when no file named like the
manifest differs, or some other file does. -/
theorem detects_iff (injective : Function.Injective PackageTools.sha256File)
    (recipe : Recipe) (version : String) (pin : SourcePin) (selected : List SelectedFile)
    (templates : List (String × List UInt8)) (texts : List (List UInt8)) (tree other : Tree)
    (made : buildStagingTree recipe version pin selected templates texts = .ok tree)
    (kept : other.manifest = tree.manifest) :
    ((∃ checked, verifyPackage other = .ok checked) ↔ SameFiles other tree) ↔
      (∀ path, fileName path = manifestName → bytesAt other path = bytesAt tree path) ∨
        ∃ path, fileName path ≠ manifestName ∧ bytesAt other path ≠ bytesAt tree path := by
  rw [verify_iff injective made kept]
  constructor
  · intro detects
    by_cases others : ∀ path, fileName path ≠ manifestName → bytesAt other path = bytesAt tree path
    · exact .inl fun path _ => detects.mp others path
    · push Not at others
      exact .inr others
  · rintro (named | ⟨path, unnamed, differs⟩)
    · refine ⟨?_, fun same path _ => same path⟩
      intro others path
      by_cases called : fileName path = manifestName
      · exact named path called
      · exact others path called
    · exact ⟨fun others => absurd (others path unnamed) differs, fun same => absurd (same path) differs⟩

end

/-! ## A file called `MANIFEST.json` below the root -/

/-- The digest of the empty file, and the bytes of another as themselves. -/
def sampleSha256 : List UInt8 → String
  | [] => "e3b0c44298fc1c149afbf4c8996fb92427ae41e4649b934ca495991b7852b855"
  | bytes => String.ofList ('-' :: bytes.map Char.ofUInt8)

@[reducible] def sampleTools : PackageTools := ⟨sampleSha256, fun _ => []⟩

def sampleRecipe : Recipe := { powerId := "p", entrypoints := ["run"], dataRoot := ".p", runtimeTemplates := false }

def samplePin : SourcePin := ⟨"r", "main", "abcdef0"⟩

def sampleSelected : List SelectedFile := [{ path := "run", bytes := [] }]

def sampleTexts : List (List UInt8) := [[], [], [], []]

/-- The tree built of one empty file. -/
def sampleTree : Tree :=
  letI := sampleTools
  let files := stagedFiles sampleRecipe sampleSelected [] sampleTexts
  ⟨files, some (buildManifest sampleRecipe files "1" samplePin), stagedFiles_apart ..⟩

/-- The same tree with a file called like the manifest in a directory. -/
def nestedTree : Tree :=
  { files := sampleTree.files.set "d/MANIFEST.json" ⟨[0], 420⟩
    manifest := sampleTree.manifest
    apart := (Dict.get?_set_of_ne _ (by decide) _).trans sampleTree.apart }

theorem sample_built :
    @buildStagingTree sampleTools sampleRecipe "1" samplePin sampleSelected [] sampleTexts = .ok sampleTree :=
  rfl

theorem sampleSha256_injective : Function.Injective sampleSha256 := by
  have bytes : Function.Injective Char.ofUInt8 := fun a b same => UInt8.toUInt32_inj.mp (congrArg Char.val same)
  -- the digest of the empty file does not start with a dash
  have apart : ∀ (b : UInt8) (rest : List UInt8), sampleSha256 [] ≠ sampleSha256 (b :: rest) := by
    intro b rest same
    have dash : (sampleSha256 (b :: rest)).toList = '-' :: (b :: rest).map Char.ofUInt8 := String.toList_ofList
    have first : (sampleSha256 []).toList.head? = some '-' := by rw [same, dash, List.head?_cons]
    exact absurd first (by decide)
  intro xs ys same
  cases xs with
  | nil =>
    cases ys with
    | nil => rfl
    | cons y others => exact absurd same (apart y others)
  | cons x rest =>
    cases ys with
    | nil => exact absurd same.symm (apart x rest)
    | cons y others => exact bytes.list_map (List.cons.inj (String.ofList_inj.mp same)).2

/-- The trees differ in a file called like the manifest alone, and the check passes. -/
theorem detects_nested :
    ((∃ checked, @verifyPackage sampleTools nestedTree = .ok checked) ↔ SameFiles nestedTree sampleTree) ↔
      (∀ path, fileName path = manifestName → bytesAt nestedTree path = bytesAt sampleTree path) ∨
        ∃ path, fileName path ≠ manifestName ∧ bytesAt nestedTree path ≠ bytesAt sampleTree path :=
  @detects_iff sampleTools sampleSha256_injective sampleRecipe "1" samplePin sampleSelected [] sampleTexts
    sampleTree nestedTree sample_built rfl

/-- A check that passes on a tree that is not the built one. -/
theorem nested_undetected :
    ¬ ∀ (tools : PackageTools), Function.Injective tools.sha256File →
      ∀ (recipe : Recipe) (version : String) (pin : SourcePin) (selected : List SelectedFile)
        (templates : List (String × List UInt8)) (texts : List (List UInt8)) (tree other : Tree),
        buildStagingTree recipe version pin selected templates texts = .ok tree →
        other.manifest = tree.manifest →
        ((∃ checked, verifyPackage other = .ok checked) ↔ SameFiles other tree) := by
  intro detects
  have passed : ∃ checked, @verifyPackage sampleTools nestedTree = .ok checked := ⟨_, rfl⟩
  have same := (detects sampleTools sampleSha256_injective sampleRecipe "1" samplePin sampleSelected []
    sampleTexts sampleTree nestedTree sample_built rfl).mp passed
  exact absurd (same "d/MANIFEST.json") (by decide)

end DwSuperApps.Guarantees.PackageDetection
