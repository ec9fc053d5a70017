import Mathlib.Data.List.Infix
import DwSuperApps.Lib.Dict
import DwSuperApps.Lib.JsonText
import DwSuperApps.Source.Chunking

/-!
# Installing a Power from an offline release

`scripts/offline_release_installer.py`: the check of a package archive, its extraction, and
the installation into the store. Besides its outcome a run has the states the store path of
the Power goes through: an interruption, or a file operation that fails, leaves one of them.

SHA-256 is a parameter, as are the order in which a directory tree is removed and what stands
outside the store. A file is kept with what `json.loads` makes of it. Left out: backups and
temporary directories, symbolic links below a package directory, documents written elsewhere.
-/
namespace DwSuperApps.Source.OfflineInstaller

open DwSuperApps.Lib DwSuperApps.Lib.Checked
open DwSuperApps.Source.Chunking (Bytes ByteHash)

/-- `SetupError`, `SystemExit`, or another exception by its kind. -/
inductive Fault where
  | setup (message : String)
  | exit (message : String)
  | raised (kind : String)
  deriving DecidableEq

/-! ## Files and archives -/

/-- What a file is read as. -/
inductive Reading where
  | notUtf8
  | notJson
  | json (value : Json)
  deriving DecidableEq

structure File where
  bytes : Bytes
  reading : Reading
  deriving DecidableEq

abbrev Path : Type := List String

/-- A directory tree: its files and the directories below it. -/
structure Content where
  files : Dict Path File := {}
  dirs : List Path := []

/-- What stands at the store path of a Power. -/
inductive Store where
  | absent
  | link (points : String)
  | file (file : File)
  | dir (content : Content)

/-- A member of an archive. -/
structure Info where
  filename : String
  isDir : Bool := false
  symlink : Bool := false
  file : File := ⟨[], .notJson⟩
  deriving DecidableEq

def slashed (filename : String) : List Char := filename.toList.map fun c => if c = '\\' then '/' else c

/-- `filename.replace("\\", "/").rstrip("/")`. -/
def normalized (info : Info) : List Char := ((slashed info.filename).reverse.dropWhile (· = '/')).reverse

/-- `require_safe_archive`. -/
def requireSafeArchive (archive : List Info) : Except Fault Unit :=
  checkAll (fun info => do
    ensure (¬ ((slashed info.filename).head? = some '/' ∨ "../".toList <:+: slashed info.filename ∨
      slashed info.filename = "..".toList)) (.exit ("unsafe archive path: " ++ info.filename))
    ensure (info.symlink = false) (.exit ("archive symlink rejected: " ++ info.filename))) archive

/-! ## Documents -/

/-- `str`. -/
def text : Json → String
  | .str value => value
  | value => value.rawRepr

/-- `bool`. -/
def truthy : Json → Bool
  | .null => false
  | .bool value => value
  | .int value => value ≠ 0
  | .float value => value ≠ "0.0" && value ≠ "-0.0"
  | .str value => value ≠ ""
  | .arr items => items ≠ []
  | .obj members => members ≠ []

/-- `data.get(key, default)`. -/
def getOr (data : Json) (key : String) (default : Json) : Except Fault Json :=
  match data with
  | .obj members => .ok ((Json.member members key).getD default)
  | _ => .error (.raised "AttributeError")

/-- `data[key]`. -/
def item (data : Json) (key : String) : Except Fault Json :=
  match data with
  | .obj members =>
    match Json.member members key with
    | some value => .ok value
    | none => .error (.raised "KeyError")
  | _ => .error (.raised "TypeError")

/-- The values a loop goes through. -/
def values : Json → Except Fault (List Json)
  | .arr items => .ok items
  | .obj members => .ok (members.map fun entry => .str entry.1)
  | .str value => .ok (value.toList.map fun c => .str (String.singleton c))
  | _ => .error (.raised "TypeError")

/-- The files a manifest names. -/
def fileEntries (manifest : Json) : Except Fault (List Json) := do
  let files ← getOr manifest "files" (.arr [])
  values files

/-- The entrypoints a manifest names. -/
def entrypoints (manifest : Json) : Except Fault (List Json) := do
  let spec ← getOr manifest "spec" (.obj [])
  let given ← getOr spec "entrypoints" (.arr [])
  values given

def entryPath (entry : Json) : Except Fault String := do
  let path ← getOr entry "path" (.str "")
  .ok (text path)

section
variable [ByteHash]

/-- `sha256_bytes`. -/
def sha256 (raw : Bytes) : String := String.ofList (Digest.hexDigits 64 (ByteHash.bits raw))

/-- The content has the size and the hash an entry of the manifest names. -/
def fits (file : File) (entry : Json) : Except Fault Bool := do
  let size ← getOr entry "size" .null
  let hash ← getOr entry "sha256" .null
  .ok (Json.pyEq (.int file.bytes.length) size ∧ hash = .str (sha256 file.bytes))

/-! ## The archive -/

def manifestName : List Char := "MANIFEST.json".toList

/-- The name of a member below the directory of the manifest. -/
def memberName (lead name : List Char) : List Char :=
  if lead ≠ [] ∧ lead <+: name then name.drop lead.length else name

/-- `package_members`: the members under their names, and the name of the manifest. -/
def packageMembers (archive : List Info) : Except Fault (Dict (List Char) Info × List Char) := do
  requireSafeArchive archive
  let manifests := ((archive.filter fun info => info.filename ≠ "").map normalized).filter fun name =>
    name = manifestName ∨ '/' :: manifestName <:+ name
  match manifests with
  | [found] =>
    let lead := found.take (found.length - manifestName.length)
    .ok (({} : Dict (List Char) Info).update
      ((archive.filter fun info => normalized info ≠ []).map fun info => (memberName lead (normalized info), info)),
      found)
  | _ => .error (.setup s!"package archive must contain one MANIFEST.json; found {manifests.length}")

/-- One round of the loop over the files of the manifest. -/
def checkMember (members : Dict (List Char) Info) (powerId : String) (entry : Json) : Except Fault Unit := do
  let relative ← entryPath entry
  match (members.get? relative.toList).filter fun info => !info.isDir with
  | none => .error (.setup s!"package file missing: {powerId}/{relative}")
  | some info => do
    let same ← fits info.file entry
    ensure (same = true) (.setup s!"package file checksum mismatch: {powerId}/{relative}")

local instance lawfulListChar : LawfulBEq (List Char) := inferInstance

/-- `verify_package_archive`: the manifest and its bytes. -/
def verifyPackageArchive (package : String) (archive : List Info) (powerId : String) :
    Except Fault (Json × Bytes) := do
  let opened ← packageMembers archive
  match (archive.filter fun info => info.filename.toList = opened.2).getLast? with
  | none => .error (.raised "KeyError")
  | some info =>
    match info.file.reading with
    | .json data => do
      let metadata ← getOr data "metadata" (.obj [])
      let found ← getOr metadata "powerId" .null
      ensure (found = .str powerId)
        (.setup s!"package power ID mismatch: expected {powerId}, found {text found}")
      let spec ← getOr data "spec" (.obj [])
      let root ← getOr spec "runtimeDataRoot" (.str "")
      ensure (¬ ((text root).toList.head? = some '/' ∨ "..".toList ∈ (text root).toList.splitOn '/'))
        (.setup s!"package runtimeDataRoot is unsafe: {powerId}")
      let files ← fileEntries data
      checkAll (checkMember opened.1 powerId) files
      let entries ← entrypoints data
      checkAll (fun entrypoint => ensure
        (((opened.1.get? (text entrypoint).toList).filter fun info => !info.isDir).isSome)
        (.setup s!"package entrypoint missing: {powerId}/{text entrypoint}")) entries
      .ok (data, info.file.bytes)
    | _ => .error (.setup ("package manifest is not valid JSON: " ++ package))

/-! ## Extraction -/

/-- A path below a directory; nothing if it leads out of it. -/
def resolve (parts : List String) : Option Path :=
  (parts.foldl (fun (reached : Option Path) part => reached.bind fun behind =>
    if part = "" ∨ part = "." then some behind
    else if part = ".." then behind.tail?
    else some (part :: behind)) (some [])).map List.reverse

/-- The parts of a name. -/
def nameParts (name : List Char) : List String := (name.splitOn '/').map String.ofList

/-- The one directory all members are below, if there is one. -/
def stripRoot (archive : List Info) : Option String :=
  let names := (archive.map normalized).filter fun name => name ≠ []
  match (names.map fun name => (nameParts name).headD "").dedup with
  | [root] => if ∃ name ∈ names, root.toList ++ ['/'] <+: name then some root else none
  | _ => none

/-- The parts of the place a member is unpacked to; none for a member that is passed over. -/
def targetParts (root : Option String) (info : Info) : Option (List String) :=
  if normalized info = [] then none
  else
    let parts := nameParts (normalized info)
    let below := if root.isSome ∧ root ≠ some "" ∧ parts.head? = root then parts.tail else parts
    if below = [] then none else some below

/-- `mkdir(parents=True, exist_ok=True)` of a directory and all above it. -/
def mkdirs (content : Content) (path : Path) : Except Fault Content := do
  ensure (∀ above ∈ path.inits, above ≠ [] → content.files.get? above = none) (.raised "FileExistsError")
  .ok { content with dirs := content.dirs ++ (path.inits.filter fun above => above ≠ [] ∧ above ∉ content.dirs) }

/-- A file written at its path, and the directories above it. -/
def write (content : Content) (path : Path) (file : File) : Except Fault Content := do
  let made ← mkdirs content path.dropLast
  ensure (path ≠ [] ∧ path ∉ made.dirs) (.raised "IsADirectoryError")
  .ok { made with files := made.files.set path file }

/-- One round of the loop over the members. -/
def unpackMember (root : Option String) (content : Content) (info : Info) : Except Fault Content :=
  match targetParts root info with
  | none => .ok content
  | some parts =>
    match resolve parts with
    | none => .error (.exit ("archive path escapes install destination: " ++ info.filename))
    | some path => if info.isDir then mkdirs content path else write content path info.file

/-- The loop over the members. -/
def unpack (root : Option String) (content : Content) : List Info → Except Fault Content
  | [] => .ok content
  | info :: rest => unpackMember root content info >>= fun made => unpack root made rest

/-- `install_component` into a new directory. -/
def installComponent (archive : List Info) : Except Fault Content := do
  requireSafeArchive archive
  unpack (stripRoot archive) {} archive

/-! ## The installed package -/

/-- The place below the package directory that a path names. -/
def locate (relative : String) : Option Path :=
  if relative.toList.head? = some '/' then none else resolve (nameParts relative.toList)

def installedFile (content : Content) (powerId : String) (entry : Json) : Except Fault Unit := do
  let relative ← entryPath entry
  match locate relative with
  | none => .error (.setup ("installed package path escapes store: " ++ relative))
  | some path =>
    match content.files.get? path with
    | none => .error (.setup s!"installed package file missing or wrong size: {powerId}/{relative}")
    | some file => do
      let same ← fits file entry
      ensure (same = true) (.setup s!"installed package checksum mismatch: {powerId}/{relative}")

/-- Whether an entrypoint is a file; one that is not below the package directory is looked up. -/
def isEntrypoint (outside : String → Bool) (content : Content) (entrypoint : String) : Bool :=
  match locate entrypoint with
  | none => outside entrypoint
  | some path => (content.files.get? path).isSome

/-- `verify_installed_package`. -/
def verifyInstalledPackage (outside : String → Bool) (content : Content) (powerId : String) (manifest : Json) :
    Except Fault Unit := do
  let files ← fileEntries manifest
  checkAll (installedFile content powerId) files
  let entries ← entrypoints manifest
  checkAll (fun entrypoint => ensure (isEntrypoint outside content (text entrypoint) = true)
    (.setup s!"installed package entrypoint missing: {powerId}/{text entrypoint}")) entries

/-! ## The marker -/

mutual
/-- `json.dumps(value, indent=2)` at a depth. -/
def indented (depth : Nat) : Json → List Char
  | .arr [] => "[]".toList
  | .arr (item :: rest) => '[' :: indentedItems (depth + 2) (item :: rest) ++
      '\n' :: List.replicate depth ' ' ++ [']']
  | .obj [] => "\x7b\x7d".toList
  | .obj (first :: rest) => '\x7b' :: indentedMembers (depth + 2) (first :: rest) ++
      '\n' :: List.replicate depth ' ' ++ ['\x7d']
  | .str value => JsonText.literal true value.toList
  | value => value.dumps.toList
def indentedItems (depth : Nat) : List Json → List Char
  | [] => []
  | item :: rest => '\n' :: List.replicate depth ' ' ++ indented depth item ++
      (if rest = [] then [] else [',']) ++ indentedItems depth rest
def indentedMembers (depth : Nat) : List (String × Json) → List Char
  | [] => []
  | (key, value) :: rest => '\n' :: List.replicate depth ' ' ++ JsonText.literal true key.toList ++
      ": ".toList ++ indented depth value ++ (if rest = [] then [] else [',']) ++ indentedMembers depth rest
end

/-- A document as `atomic_json` writes it. -/
def jsonFile (payload : Json) : File where
  bytes := (indented 0 payload.sortKeys ++ ['\n']).flatMap String.utf8EncodeChar
  reading := .json payload.sortKeys

def markerPath : Path := [".dw-managed.json"]

def markerFile (powerId : String) (version : Json) (sourceManifestSha : String) (epoch : Int) : File :=
  jsonFile (.obj [("managedBy", .str "dw-superapps-full-release"), ("powerId", .str powerId),
    ("version", version), ("sourceManifestSha256", .str sourceManifestSha), ("installedAtEpoch", .int epoch)])

/-- The marker of what is installed; what is no JSON counts as none. -/
def previousMarker (content : Content) : Except Fault Json :=
  match content.files.get? markerPath with
  | none => .ok .null
  | some file =>
    match file.reading with
    | .notUtf8 => .error (.raised "UnicodeDecodeError")
    | .notJson => .ok .null
    | .json value => .ok value

/-- The marker names the same package. -/
def sameSource (marker : Json) (sourceManifestSha : String) : Except Fault Bool :=
  if truthy marker then do
    let found ← getOr marker "sourceManifestSha256" .null
    .ok (found = .str sourceManifestSha)
  else .ok false

/-! ## Installation -/

inductive Action where
  | installed | replaced | unchanged
  deriving DecidableEq

/-- The machine around the store. -/
structure Disk where
  destination : String
  outside : String → Bool
  order : Content → List Path
  epoch : Int

/-- The target system of a binding; the runtime root resolved below it, if it stays there. -/
structure Target where
  path : String
  systemId : String
  legacyExists : Bool
  runtime : String → Option String
  binding : String

structure Component where
  name : String
  package : String
  archive : List Info

/-- A tree without the files and directories that are gone. -/
def Content.without (content : Content) (gone : List Path) : Content where
  files := ({} : Dict Path File).update (content.files.entries.filter fun entry => entry.1 ∉ gone)
  dirs := content.dirs.filter fun path => path ∉ gone

/-- `shutil.rmtree`: one entry after the other, the directory last. -/
def rmtree (disk : Disk) (content : Content) : List Store :=
  ((disk.order content).inits.map fun gone => .dir (content.without gone)) ++ [.absent]

/-- What is done to a package directory: whether it stays, with the states of its removal. -/
def replacePackage (disk : Disk) (component : Component) (repair : Bool) (manifest : Json)
    (sourceManifestSha : String) (content : Content) (removal : List Store) :
    Except Fault (Action × List Store) := do
  let marker ← previousMarker content
  let same ← sameSource marker sourceManifestSha
  if same then
    match verifyInstalledPackage disk.outside content component.name manifest with
    | .ok () => .ok (.unchanged, [])
    | .error (.setup message) => if repair then .ok (.replaced, removal) else .error (.setup message)
    | .error fault => .error fault
  else do
    ensure (truthy marker = true ∨ repair = true)
      (.setup s!"BLOCKED_UNMANAGED_PACKAGE: {disk.destination}; use --repair")
    .ok (.replaced, removal)

/-- What is done to the store path before the new package is unpacked. -/
def clearDestination (disk : Disk) (component : Component) (repair : Bool) (manifest : Json)
    (sourceManifestSha : String) : Store → Except Fault (Action × List Store)
  | .absent => .ok (.installed, [])
  | .link _ => do
    ensure (repair = true)
      (.setup s!"BLOCKED_UNMANAGED_PACKAGE: symlink at {disk.destination}; use --repair")
    .ok (.installed, [.absent])
  | .file _ => replacePackage disk component repair manifest sourceManifestSha {} [.absent]
  | .dir content =>
    replacePackage disk component repair manifest sourceManifestSha content (rmtree disk content)

/-- The package as it is unpacked beside the store path, its marker included. -/
def stage (disk : Disk) (component : Component) (manifest : Json) (sourceManifestSha : String) :
    Except Fault Content := do
  let unpacked ← installComponent component.archive
  let metadata ← item manifest "metadata"
  let version ← item metadata "version"
  write unpacked markerPath (markerFile component.name version sourceManifestSha disk.epoch)

structure InstallResult where
  powerId : String
  version : Json
  action : Action
  storePath : String
  legacyStatus : String
  runtimePath : Option String := none
  binding : Option String := none
  deriving DecidableEq

/-- What is reported, and the binding of a target. -/
def report (disk : Disk) (component : Component) (target : Option Target) (manifest : Json) (action : Action) :
    Except Fault InstallResult := do
  let metadata ← item manifest "metadata"
  let version ← item metadata "version"
  match target with
  | none => .ok ⟨component.name, version, action, disk.destination, "NONE", none, none⟩
  | some target => do
    let spec ← item manifest "spec"
    let root ← item spec "runtimeDataRoot"
    match target.runtime (text root) with
    | none => .error (.setup s!"runtime root escapes target: {text root}")
    | some runtime =>
      let legacy := if target.legacyExists then "LEGACY_TARGET_INSTALL" else "NONE"
      .ok ⟨component.name, version, action, disk.destination, legacy, some runtime, some target.binding⟩

/-- The states of the store path behind the steps that change it, and the outcome. -/
structure Run where
  visited : List Store
  outcome : Except Fault InstallResult

/-- `install_power_for_setup`. -/
def installPowerForSetup (disk : Disk) (component : Component) (target : Option Target) (repair : Bool)
    (store : Store) : Run :=
  match verifyPackageArchive component.package component.archive component.name with
  | .error fault => ⟨[], .error fault⟩
  | .ok (manifest, manifestBytes) =>
    match clearDestination disk component repair manifest (sha256 manifestBytes) store with
    | .error fault => ⟨[], .error fault⟩
    | .ok (.unchanged, removed) => ⟨removed, report disk component target manifest .unchanged⟩
    | .ok (action, removed) =>
      match stage disk component manifest (sha256 manifestBytes) with
      | .error fault => ⟨removed, .error fault⟩
      | .ok content => ⟨removed ++ [.dir content], report disk component target manifest action⟩

/-- What a run leaves at the store path. -/
def Run.leaves (run : Run) (store : Store) : Store := run.visited.getLast?.getD store

end

end DwSuperApps.Source.OfflineInstaller
