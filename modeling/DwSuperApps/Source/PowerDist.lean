import Mathlib.Data.List.Lex
import DwSuperApps.Lib.Checked
import DwSuperApps.Lib.Dict
import DwSuperApps.Lib.Json
import DwSuperApps.Lib.Sorted

/-!
# Power packages

`scripts/power_dist.py`: the staging tree of a package, its manifest, and the check of a
package against its manifest. A tree holds its files under their paths from the root; what
stands in the manifest at the root is kept as the document it is read as.

SHA-256 and the JSON schema validator are parameters. The files a recipe selects, the
runtime templates and the generated texts are given; left out is how they come about.
-/
namespace DwSuperApps.Source.PowerDist

open DwSuperApps.Lib DwSuperApps.Lib.Checked DwSuperApps.Lib.Sorted

/-! ## Trees -/

/-- `DistributionError`. -/
structure DistributionError where
  message : String
  deriving DecidableEq

structure PackageFile where
  bytes : List UInt8
  mode : Nat
  deriving DecidableEq

def manifestName : String := "MANIFEST.json"

/-- `path.parts` of a path in POSIX form. -/
def parts (path : String) : List String := (path.toList.splitOn '/').map String.ofList

/-- `path.name`. -/
def fileName (path : String) : String :=
  String.ofList (path.toList.reverse.takeWhile (· ≠ '/')).reverse

structure ManifestEntry where
  path : String
  size : Nat
  sha256 : String
  mode : String
  deriving DecidableEq

structure PackageManifest where
  powerId : String
  version : String
  sourceSha : String
  sourceRepository : String
  sourceRef : String
  entrypoints : List String
  runtimeDataRoot : String
  managedPaths : List String
  generatedFiles : List String
  agentGuidance : Option String
  files : List ManifestEntry
  deriving DecidableEq

/-- The files of a package. What stands at the manifest's own path is kept as the document. -/
structure Tree where
  files : Dict String PackageFile := {}
  manifest : Option PackageManifest := none
  apart : files.get? manifestName = none := by rfl

/-- SHA-256 of a file in hexadecimal, and the messages of the schema validator. -/
class PackageTools where
  sha256File : List UInt8 → String
  schemaErrors : PackageManifest → List String

/-! ## The manifest -/

structure Recipe where
  powerId : String
  entrypoints : List String
  dataRoot : String
  managedPaths : List String := []
  runtimeTemplates : Bool := true
  deriving DecidableEq

structure SourcePin where
  repository : String
  ref : String
  sha : String
  deriving DecidableEq

/-- `GENERATED_FILES`. -/
def generatedFiles : List String := ["POWER.yaml", "SOURCE.json", "VERSION", "AGENT_GUIDANCE.md"]

def octalDigit (n : Nat) : Char := Char.ofNat (48 + n % 8)

/-- `f"{mode:04o}"`. -/
def modeText (mode : Nat) : String :=
  String.ofList [octalDigit (mode / 512), octalDigit (mode / 64), octalDigit (mode / 8), octalDigit mode]

section
variable [PackageTools]

def manifestEntry (path : String) (file : PackageFile) : ManifestEntry where
  path := path
  size := file.bytes.length
  sha256 := PackageTools.sha256File file.bytes
  mode := modeText file.mode

/-- `build_manifest`. -/
def buildManifest (recipe : Recipe) (files : Dict String PackageFile) (version : String) (pin : SourcePin) :
    PackageManifest where
  powerId := recipe.powerId
  version := version
  sourceSha := pin.sha
  sourceRepository := pin.repository
  sourceRef := pin.ref
  entrypoints := recipe.entrypoints
  runtimeDataRoot := recipe.dataRoot
  managedPaths := recipe.managedPaths
  generatedFiles := generatedFiles
  agentGuidance := some "AGENT_GUIDANCE.md"
  files := ((sortedBy (fun entry => parts entry.1) files.entries).filter
    fun entry => fileName entry.1 ≠ manifestName).map fun entry => manifestEntry entry.1 entry.2

/-- `validate_document` with the manifest schema. -/
def validateManifest (manifest : PackageManifest) : Except DistributionError Unit :=
  ensure (PackageTools.schemaErrors manifest = [])
    ⟨"schema validation failed:\n- " ++ "\n- ".intercalate (PackageTools.schemaErrors manifest)⟩

/-! ## The check -/

/-- `{entry["path"]: entry for entry in manifest["files"]}`. -/
def expectedFiles (manifest : PackageManifest) : Dict String ManifestEntry :=
  ({} : Dict String ManifestEntry).update (manifest.files.map fun entry => (entry.path, entry))

/-- The paths of the files whose name is not the manifest's. -/
def actualPaths (files : Dict String PackageFile) : List String :=
  (files.entries.map Prod.fst).filter fun path => fileName path ≠ manifestName

/-- `str` of sorted names. -/
def listing (names : List String) : String :=
  (Json.arr ((names.insertionSort (· ≤ ·)).map .str)).rawRepr

/-- One round of the loop over the expected files; every path was found among the files. -/
def checkFile (files : Dict String PackageFile) (expected : String × ManifestEntry) :
    Except DistributionError Unit :=
  match files.get? expected.1 with
  | none => .error ⟨"file not found: " ++ expected.1⟩
  | some file => do
    ensure (file.bytes.length = expected.2.size) ⟨"size mismatch: " ++ expected.1⟩
    ensure (PackageTools.sha256File file.bytes = expected.2.sha256) ⟨"hash mismatch: " ++ expected.1⟩

/-- `verify_package`. -/
def verifyPackage (tree : Tree) : Except DistributionError PackageManifest :=
  match tree.manifest with
  | none => .error ⟨"file not found: MANIFEST.json"⟩
  | some manifest => do
    validateManifest manifest
    let expected := expectedFiles manifest
    let missing := (expected.entries.map Prod.fst).filter fun path => path ∉ actualPaths tree.files
    let extra := (actualPaths tree.files).filter fun path => path ∉ expected.entries.map Prod.fst
    ensure (missing = [] ∧ extra = [])
      ⟨s!"manifest file set mismatch; missing={listing missing}, extra={listing extra}"⟩
    checkAll (checkFile tree.files) expected.entries
    checkAll (fun entrypoint => ensure (expected.contains entrypoint)
      ⟨"manifest entrypoint missing: " ++ entrypoint⟩) manifest.entrypoints
    ensure (∀ guidance ∈ manifest.agentGuidance, guidance ≠ "" → expected.contains guidance)
      ⟨"manifest agent guidance missing: " ++ manifest.agentGuidance.getD ""⟩
    .ok manifest

end

/-! ## The staging tree -/

/-- A selected file with its path from the source root. -/
structure SelectedFile where
  path : String
  bytes : List UInt8
  executable : Bool := false
  deriving DecidableEq

/-- A file at its place. What would stand at the manifest's is replaced before it is read. -/
def place (files : Dict String PackageFile) (path : String) (file : PackageFile) : Dict String PackageFile :=
  if path = manifestName then files else files.set path file

def placeAll (files : Dict String PackageFile) (given : List (String × PackageFile)) : Dict String PackageFile :=
  given.foldl (fun files source => place files source.1 source.2) files

theorem place_apart {files : Dict String PackageFile} (apart : files.get? manifestName = none)
    (path : String) (file : PackageFile) : (place files path file).get? manifestName = none := by
  unfold place
  split
  · exact apart
  · next other =>
    rw [Dict.get?_set_of_ne files (Ne.symm other)]
    exact apart

theorem placeAll_apart {files : Dict String PackageFile} (apart : files.get? manifestName = none)
    (given : List (String × PackageFile)) : (placeAll files given).get? manifestName = none := by
  induction given generalizing files with
  | nil => exact apart
  | cons source rest ih => exact ih (place_apart apart source.1 source.2)

/-- The selected files, `0o755` or `0o644`. -/
def copySelected (files : Dict String PackageFile) (selected : List SelectedFile) : Dict String PackageFile :=
  placeAll files (selected.map fun source =>
    (source.path, ⟨source.bytes, if source.executable then 493 else 420⟩))

/-- `copy_runtime_templates`: what is in `bin` is executable. -/
def copyRuntimeTemplates (files : Dict String PackageFile) (templates : List (String × List UInt8)) :
    Dict String PackageFile :=
  placeAll files (templates.map fun source =>
    (source.1, ⟨source.2, if (parts source.1).head? = some "bin" then 493 else 420⟩))

/-- The generated files: `atomic_write` leaves `0o600`. -/
def writeGenerated (files : Dict String PackageFile) (texts : List (List UInt8)) : Dict String PackageFile :=
  placeAll files ((generatedFiles.zip texts).map fun source => (source.1, ⟨source.2, 384⟩))

/-- The files of the staging tree before its manifest is written. -/
def stagedFiles (recipe : Recipe) (selected : List SelectedFile) (templates : List (String × List UInt8))
    (texts : List (List UInt8)) : Dict String PackageFile :=
  let copied := copySelected {} selected
  let furnished := if recipe.runtimeTemplates then copyRuntimeTemplates copied templates else copied
  writeGenerated furnished texts

theorem stagedFiles_apart (recipe : Recipe) (selected : List SelectedFile)
    (templates : List (String × List UInt8)) (texts : List (List UInt8)) :
    (stagedFiles recipe selected templates texts).get? manifestName = none := by
  unfold stagedFiles writeGenerated copyRuntimeTemplates copySelected
  apply placeAll_apart
  split
  · exact placeAll_apart (placeAll_apart (Dict.get?_empty _) _) _
  · exact placeAll_apart (Dict.get?_empty _) _

section
variable [PackageTools]

/-- `build_staging_tree`. -/
def buildStagingTree (recipe : Recipe) (version : String) (pin : SourcePin) (selected : List SelectedFile)
    (templates : List (String × List UInt8)) (texts : List (List UInt8)) : Except DistributionError Tree := do
  let files := stagedFiles recipe selected templates texts
  let manifest := buildManifest recipe files version pin
  validateManifest manifest
  let tree := ⟨files, some manifest, stagedFiles_apart recipe selected templates texts⟩
  let _ ← verifyPackage tree
  .ok tree

end

end DwSuperApps.Source.PowerDist
