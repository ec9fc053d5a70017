import Mathlib.Data.List.Infix
import Mathlib.Data.List.Sort
import DwSuperApps.Lib.Checked
import DwSuperApps.Source.Envelope

/-!
# Child contracts

`taskcontroller/execution/child_contract.py`: the source references of a parent and of a
child contract. A mapping is an object with its members.
-/
namespace DwSuperApps.Source.Children

open DwSuperApps.Lib DwSuperApps.Lib.Checked
open DwSuperApps.Source.Envelope (SourceRef)

/-- `ChildContractError`. -/
structure Raised where
  code : String
  message : String
  failedChecks : List String := []
  deriving DecidableEq

def fail (code message : String) : Raised := ⟨code, s!"{code}: {message}", []⟩

def schemaInvalid (message : String) : Raised := fail "SCHEMA_INVALID" message

/-! ## Objects -/

/-- `_mapping`. -/
def mapping (name : String) : Json → Except Raised (List (String × Json))
  | .obj members => .ok members
  | _ => .error (schemaInvalid s!"{name} must be an object")

/-- `", ".join(sorted(names))`. -/
def nameList (names : List String) : String := ", ".intercalate (names.insertionSort (· ≤ ·))

/-- The members are the allowed ones, all of them. -/
def checkMembers (name : String) (allowed : List String) (members : List (String × Json)) :
    Except Raised Unit := do
  let unknown := (members.map Prod.fst).filter (· ∉ allowed)
  ensure (unknown = []) (schemaInvalid s!"unsupported {name} fields: {nameList unknown}")
  let missing := allowed.filter (· ∉ members.map Prod.fst)
  ensure (missing = []) (schemaInvalid s!"missing {name} fields: {nameList missing}")

/-! ## Source references -/

/-- Two non-empty runs of a character class without the slash, and a slash between them. -/
def slashPair (inClass : Char → Bool) (l : List Char) : Bool :=
  let owner := l.takeWhile (· ≠ '/')
  let name := (l.dropWhile (· ≠ '/')).drop 1
  '/' ∈ l && owner ≠ [] && name ≠ [] && (owner ++ name).all fun c => c ≠ '/' && inClass c

/-- `re.fullmatch(r"[^/\\s]+/[^/\\s]+", …)`: in the raw string the class leaves out the
slash, the backslash and the letter s. -/
def isRepository (l : List Char) : Bool := slashPair (fun c => c ≠ '\\' && c ≠ 's') l

def isCommitDigit (c : Char) : Bool := isHexChar c || ('A' ≤ c && c ≤ 'F')

/-- `re.fullmatch(r"[0-9a-fA-F]{40}(?:[0-9a-fA-F]{24})?", …)`. -/
def isCommit (l : List Char) : Bool := (l.length == 40 || l.length == 64) && l.all isCommitDigit

/-- A relative path; `"\\x00"` is a text of four characters. -/
def isRelativePath (l : List Char) : Bool :=
  l ≠ [] && l.head? ≠ some '/' && !decide (['\\', 'x', '0', '0'] <:+: l) &&
    ['.', '.'] ∉ l.splitOn '/'

/-- A text field that meets a condition. -/
def sourceText (valid : List Char → Bool) (message : String) : Json → Except Raised String
  | .str text => if valid text.toList then .ok text else .error (schemaInvalid message)
  | _ => .error (schemaInvalid message)

def sourceFields : List String := ["repository", "commit_sha", "path", "blob_digest"]

/-- `_normalize_source` of a mapping. -/
def normalizeSource (name : String) (value : Json) : Except Raised SourceRef := do
  let candidate ← mapping name value
  checkMembers name sourceFields candidate
  let repository ← sourceText isRepository s!"{name}.repository must be owner/repository"
    (Json.get candidate "repository")
  let commitSha ← sourceText isCommit s!"{name}.commit_sha must be a 40- or 64-hex commit"
    (Json.get candidate "commit_sha")
  let path ← sourceText isRelativePath s!"{name}.path must be a relative repository path"
    (Json.get candidate "path")
  let blobDigest ← sourceText isDigestChars s!"{name}.blob_digest must be sha256 hex"
    (Json.get candidate "blob_digest")
  return { repository, commitSha, path, blobDigest }

end DwSuperApps.Source.Children
