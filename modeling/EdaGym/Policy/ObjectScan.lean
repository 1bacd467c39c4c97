import EdaGym.Artifacts.ContentRules
import EdaGym.Policy.TreeParser

/-!
# Scanning the object database

`git cat-file --batch` gives each object of the database in chunks. A scan keeps what the rules say
of it; the findings of the scans are those of the object database.
-/

namespace EdaGym

/-! ### Objects -/

inductive ObjectType where
  | blob
  | commit
  | tag
  | tree
deriving DecidableEq

inductive GitObjectFormat where
  | sha1
  | sha256
deriving DecidableEq

/-- `hash_width`. -/
def GitObjectFormat.hashWidth : GitObjectFormat → Nat
  | sha1 => 20
  | sha256 => 32

/-- An object id is kept as the bytes of its hexadecimal text. -/
abbrev GitObjectId := Bytes

def isLowerHex (b : UInt8) : Bool := (48 ≤ b ∧ b ≤ 57) ∨ (97 ≤ b ∧ b ≤ 102)

/-- `_OBJECT_ID.fullmatch(value)`. -/
def isObjectId (value : Bytes) : Bool :=
  (value.length = 40 ∨ value.length = 64) ∧ value.all isLowerHex

structure ObjectDescription where
  objectId : GitObjectId
  objectType : ObjectType
  size : Nat

/-- What `git cat-file --batch` answers to one object id: its header, when it is one, what the reads
of the content return, and whether a newline follows. -/
structure CatFileReply where
  header : Option (GitObjectId × ObjectType × Nat)
  reads : List Bytes
  newline : Bool

/-- One process of `git cat-file --batch`. -/
structure CatFile where
  objectFormat : Except PolicyFailure GitObjectFormat
  reply : GitObjectId → CatFileReply
  returnCode : Int

structure ObjectScan where
  objectId : GitObjectId
  objectType : ObjectType
  contentRules : List String
  lfsPointer : Option (Bytes × Nat)
  commitTreeId : Option GitObjectId
  treeHits : List TreeHit
  rootTreeHits : List TreeHit
  hasTempTree : Bool
  targetsTemp : Bool
  targetPathRule : Option String

/-! ### The parts of a scan -/

def METADATA_PREFIX_SIZE : Nat := 8 * 1024

/-- `_object_chunks`: the chunks of an object of which `remaining` bytes are still to come. -/
def objectChunks : Nat → List Bytes → Except PolicyFailure (List Bytes)
  | 0, _ => .ok []
  | _ + 1, [] => .error .objectProtocolFailure
  | remaining + 1, chunk :: reads => do
    raiseIf (chunk = []) .objectProtocolFailure
    let chunks ← objectChunks (remaining + 1 - chunk.length) reads
    return chunk :: chunks

/-- The bytes that `_object_chunks` keeps of an object. -/
def metadataOf (chunks : List Bytes) : Bytes :=
  chunks.foldl (fun kept chunk =>
    if kept.length < METADATA_PREFIX_SIZE then
      kept ++ chunk.take (METADATA_PREFIX_SIZE - kept.length)
    else kept) []

/-- `matching_content_rules`. -/
def matchingContentRules [ContentRules] (chunks : List Bytes) : List String :=
  (chunks.foldl ContentRuleScanner.update { rules := ContentRules.contentRules }).matched

/-- `_commit_tree`. -/
def commitTree (metadata : Bytes) : Except PolicyFailure GitObjectId :=
  match partitionAt LF metadata with
  | none => .error .objectProtocolFailure
  | some (firstLine, _) => do
    raiseIf (¬ (ascii "tree ").isPrefixOf firstLine) .objectProtocolFailure
    raiseIf (¬ isObjectId (firstLine.drop 5)) .objectProtocolFailure
    return firstLine.drop 5

def dropOptional (b : UInt8) (data : Bytes) : Bytes :=
  if data.head? = some b then data.tail else data

def isDigitByte (b : UInt8) : Bool := 48 ≤ b ∧ b ≤ 57

/-- A line ending of the pointer format, `\r?\n`. -/
def dropLineEnd (data : Bytes) : Option Bytes :=
  match dropOptional CR data with
  | [] => none
  | b :: rest => if b = LF then some rest else none

/-- `_LFS_POINTER.fullmatch`: the object id and the size of a pointer file. -/
def lfsPointerOf (data : Bytes) : Option (Bytes × Nat) := do
  let data ← data.dropPrefix? (ascii "version https://git-lfs.github.com/spec/v1")
  let data ← dropLineEnd data
  let data ← data.dropPrefix? (ascii "oid sha256:")
  let oid := data.take 64
  guard (oid.length = 64 ∧ oid.all isLowerHex)
  let data ← dropLineEnd (data.drop 64)
  let data ← data.dropPrefix? (ascii "size ")
  let digits := data.takeWhile isDigitByte
  guard (digits ≠ [])
  guard (dropOptional LF (dropOptional CR (data.dropWhile isDigitByte)) = [])
  return (oid, digits.foldl (fun n b => 10 * n + (b.toNat - 48)) 0)

variable [PathText]

/-- `_target_mentions_temp`. -/
def targetMentionsTemp (metadata : Bytes) (size : Nat) : Bool :=
  if size > metadata.length ∨ (0 : UInt8) ∈ metadata then false
  else
    match utf8Decode metadata with
    | none => false
    | some target => (purePathParts target).any fun part => casefold part = text "temp"

/-- `_target_path_rule`. -/
def targetPathRule (metadata : Bytes) (size : Nat) : Option String :=
  if size > metadata.length ∨ (0 : UInt8) ∈ metadata then none
  else (utf8Decode metadata).bind sensitivePathRule

/-! ### Scans -/

/-- What the scan of a tree object keeps of its entries. -/
def scanTree (format : GitObjectFormat) (objectType : ObjectType) (chunks : List Bytes) :
    Except PolicyFailure TreeHits :=
  if objectType = .tree then parseTree format.hashWidth chunks else .ok {}

def scanCommit (objectType : ObjectType) (metadata : Bytes) :
    Except PolicyFailure (Option GitObjectId) :=
  if objectType = .commit then (commitTree metadata).map some else .ok none

variable [ContentRules]

/-- The body of the loop of `_scan_objects`, after the header is read. -/
def scanAnswered (format : GitObjectFormat) (description : ObjectDescription)
    (header : GitObjectId × ObjectType × Nat) (reply : CatFileReply) :
    Except PolicyFailure ObjectScan := do
  let (returnedId, objectType, size) := header
  raiseIf (returnedId ≠ description.objectId) .objectProtocolFailure
  raiseIf (objectType ≠ description.objectType ∨
    (description.size ≠ 0 ∧ size ≠ description.size)) .objectProtocolFailure
  let chunks ← objectChunks size reply.reads
  raiseIf (¬ reply.newline) .objectProtocolFailure
  let seen ← scanTree format objectType chunks
  let commitTreeId ← scanCommit objectType (metadataOf chunks)
  return {
    objectId := description.objectId
    objectType := objectType
    contentRules := matchingContentRules chunks
    lfsPointer :=
      if size ≤ (metadataOf chunks).length then lfsPointerOf (metadataOf chunks) else none
    commitTreeId := commitTreeId
    treeHits := seen.hits
    rootTreeHits := seen.rootHits
    hasTempTree := seen.hasTempTree
    targetsTemp := targetMentionsTemp (metadataOf chunks) size
    targetPathRule := targetPathRule (metadataOf chunks) size }

def scanObject (format : GitObjectFormat) (process : CatFile) (description : ObjectDescription) :
    Except PolicyFailure ObjectScan := do
  let header ← orRaise (process.reply description.objectId).header .objectProtocolFailure
  scanAnswered format description header (process.reply description.objectId)

/-- The loop of `_scan_objects`. -/
def scanLoop (format : GitObjectFormat) (process : CatFile) :
    List ObjectDescription → Except PolicyFailure (List ObjectScan)
  | [] => .ok []
  | description :: descriptions => do
    let scan ← scanObject format process description
    let scans ← scanLoop format process descriptions
    return scan :: scans

/-- `_scan_objects`. -/
def scanObjects (process : CatFile) (descriptions : List ObjectDescription) :
    Except PolicyFailure (List ObjectScan) :=
  if descriptions = [] then .ok []
  else do
    let format ← process.objectFormat
    let scans ← scanLoop format process descriptions
    raiseIf (process.returnCode ≠ 0) .objectProtocolFailure
    return scans

/-! ### Findings -/

inductive FindingScope where
  | repositoryConfig
  | indexPath
  | indexObject
  | trackedPath
  | trackedObject
  | objectDatabase
  | gitRef
  | gitReflog
  | gitLfs
  | externalScanner
deriving DecidableEq

structure PolicyFinding where
  ruleId : String
  scope : FindingScope
  path : Option Text := none
  objectId : Option Bytes := none

/-- `commit_root_trees`. -/
def commitRootTrees (scans : List ObjectScan) : List GitObjectId :=
  scans.filterMap ObjectScan.commitTreeId

/-- What `_add_object_findings` finds in one scan. -/
def objectFindings (rootTrees : List GitObjectId) (scan : ObjectScan) : List PolicyFinding :=
  let isRoot := scan.objectId ∈ rootTrees
  (if isRoot then scan.rootTreeHits.map fun hit =>
    ⟨hit.ruleId, .objectDatabase, some hit.name, some scan.objectId⟩ else []) ++
  (scan.contentRules.map fun ruleId => ⟨ruleId, .objectDatabase, none, some scan.objectId⟩) ++
  (scan.treeHits.map fun hit =>
    ⟨hit.ruleId, .objectDatabase, some hit.name, some scan.objectId⟩) ++
  (if isRoot ∧ scan.hasTempTree then
    [⟨"historical-temp-path", .objectDatabase, some (text "temp"), some scan.objectId⟩] else [])

/-- `_add_object_findings`. -/
def addObjectFindings (scans : List ObjectScan) : List PolicyFinding :=
  scans.flatMap (objectFindings (commitRootTrees scans))

end EdaGym
