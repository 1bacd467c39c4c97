import EdaGym.Artifacts.Manifest

/-!
# Checkpoint markers

A marker binds a checkpoint identifier to a committed manifest. It is written to a temporary file
and linked to its name, which is never replaced.
-/

namespace EdaGym

open Process hiding ofExcept

/-! ### Identifiers -/

def isLowerLetter (c : Char) : Bool := 'a' ≤ c && c ≤ 'z'

def isIdentifierChar (c : Char) : Bool := isLowerLetter c || ('0' ≤ c && c ≤ '9')

def isSeparator (c : Char) : Bool := c = '.' || c = '_' || c = '-'

/-- The rest of an identifier after a letter or digit. -/
def isIdentifierTail : List Char → Bool
  | [] => true
  | [c] => isIdentifierChar c
  | c :: c' :: cs =>
    if isIdentifierChar c then isIdentifierTail (c' :: cs)
    else isSeparator c && isIdentifierChar c' && isIdentifierTail cs

/-- The `Identifier` pattern `^[a-z][a-z0-9]*(?:[._-][a-z0-9]+)*$` and its length. -/
def isIdentifier (s : String) : Bool :=
  match s.toList with
  | [] => false
  | c :: cs => isLowerLetter c && isIdentifierTail cs && cs.length + 1 ≤ 96

/-! ### Markers -/

def CheckpointKind.value : CheckpointKind → String
  | .application => "app"
  | .filesystem => "fs"

@[ext]
structure CheckpointMarker where
  checkpointKind : CheckpointKind
  checkpointId : Identifier
  manifestDigest : Digest
  manifestBlob : BlobRef
  driverDigest : Option Digest
  id_valid : isIdentifier checkpointId = true := by decide
  driver_iff : checkpointKind = .application ↔ driverDigest.isSome = true := by
    first | exact filesystem_driverless | decide

instance : DecidableEq CheckpointMarker := fun _ _ =>
  decidable_of_iff _ CheckpointMarker.ext_iff.symm

namespace CheckpointMarker

def validate (kind : CheckpointKind) (checkpointId : Identifier) (manifestDigest : Digest)
    (manifestBlob : BlobRef) (driverDigest : Option Digest) : Except StoreError CheckpointMarker :=
  if hid : isIdentifier checkpointId = true then
    if hdriver : kind = .application ↔ driverDigest.isSome = true then
      .ok ⟨kind, checkpointId, manifestDigest, manifestBlob, driverDigest, hid, hdriver⟩
    else .error (.value "application checkpoints require exactly one driver identity")
  else .error (.value "String should match pattern '^[a-z][a-z0-9]*(?:[._-][a-z0-9]+)*$'")

lemma validate_eq_ok {kind : CheckpointKind} {checkpointId : Identifier} {manifestDigest : Digest}
    {manifestBlob : BlobRef} {driverDigest : Option Digest} {marker : CheckpointMarker} :
    validate kind checkpointId manifestDigest manifestBlob driverDigest = .ok marker ↔
      marker.checkpointKind = kind ∧ marker.checkpointId = checkpointId ∧
        marker.manifestDigest = manifestDigest ∧ marker.manifestBlob = manifestBlob ∧
        marker.driverDigest = driverDigest := by
  rw [validate]
  split
  · split
    · rw [Except.ok.injEq]
      cases marker
      simp only [mk.injEq]
      constructor <;> rintro ⟨rfl, rfl, rfl, rfl, rfl⟩ <;> exact ⟨rfl, rfl, rfl, rfl, rfl⟩
    · next hdriver =>
      refine ⟨(fun h => nomatch h), ?_⟩
      rintro ⟨rfl, rfl, rfl, rfl, rfl⟩
      exact absurd marker.driver_iff hdriver
  · next hid =>
    refine ⟨(fun h => nomatch h), ?_⟩
    rintro ⟨rfl, rfl, rfl, rfl, rfl⟩
    exact absurd marker.id_valid hid

def json (m : CheckpointMarker) : String :=
  "\x7b\"checkpoint_id\":" ++ jsonString m.checkpointId ++
    ",\"checkpoint_kind\":" ++ jsonString m.checkpointKind.value ++
    ",\"driver_digest\":" ++ m.driverDigest.elim "null" jsonString ++
    ",\"manifest_blob\":" ++ m.manifestBlob.json ++
    ",\"manifest_digest\":" ++ jsonString m.manifestDigest ++
    ",\"schema_version\":1\x7d"

/-- `canonical_bytes(marker) + b"\n"`. -/
def encoded (m : CheckpointMarker) : Bytes := utf8 m.json ++ [10]

/-- The manifest a marker names, as `_load_checkpoint` asks for it. -/
def committed (m : CheckpointMarker) : CommittedManifest :=
  { semanticDigest := m.manifestDigest, blob := m.manifestBlob }

end CheckpointMarker

/-- `CheckpointMarker.model_validate_json`. -/
class MarkerDecoder where
  validateMarkerJson : Bytes → Option CheckpointMarker

export MarkerDecoder (validateMarkerJson)

def MARKER_READ_BOUND : Nat := 64 * 1024

/-- `f"{checkpoint_id}.json"`. -/
def markerName (checkpointId : Identifier) : String := checkpointId ++ ".json"

/-- `_read_secure_file`, of a marker file. -/
def readSecureFile (files : StoreFiles) (name : String) (maximumBytes : Nat) :
    Except StoreError Bytes := do
  let content ← orRaise (files.markers.get? name)
    (.integrity "artifact metadata cannot be opened safely")
  raiseIf (content.length > maximumBytes)
    (.integrity "artifact metadata file exceeds its bound")
  pure content

/-- Link the temporary file to a name that is free; a name that is taken must have this content. -/
def linkMarker (target : String) (content : Bytes) : StoreProcess PUnit := do
  let present ← look fun files => .ok (decide (target ∈ files.markers))
  if present then look fun files => do
    let existing ← readSecureFile files target (content.length + 1)
    raiseIf (existing ≠ content) (.store "immutable marker identity already has other content")
  else stepFiles fun files => { files with markers := files.markers.insert target content }

/-- `_publish_bytes_no_replace`. -/
def publishBytesNoReplace (target : String) (content : Bytes) : StoreProcess PUnit := do
  stepFiles fun files => { files with publishing := [] :: files.publishing }
  finallyDo
    (do
      stepFiles fun files =>
        { files with publishing := files.publishing.modifyHead fun _ => content }
      linkMarker target content
      fsyncDirectory)
    (stepFiles fun files => { files with publishing := files.publishing.tail })

/-- `_load_checkpoint_marker_unlocked`. -/
def loadCheckpointMarker [MarkerDecoder] (files : StoreFiles) (checkpointId : Identifier) :
    Except StoreError CheckpointMarker := do
  let content ← readSecureFile files (markerName checkpointId) MARKER_READ_BOUND
  let marker ← orRaise (validateMarkerJson content) (.integrity "checkpoint marker is invalid")
  raiseIf (marker.encoded ≠ content) (.integrity "checkpoint marker is not canonically encoded")
  raiseIf (marker.checkpointId ≠ checkpointId)
    (.integrity "checkpoint marker identity disagrees with its name")
  pure marker

namespace ContentAddressedStore

variable [StoreCrypto] [ContentRules] [ManifestDecoder] (store : ContentAddressedStore)

/-- `_commit_checkpoint`. -/
def commitCheckpoint (checkpointId : Identifier) (committed : CommittedManifest)
    (kind : CheckpointKind) (driverDigest : Option Digest) : StoreProcess CheckpointMarker :=
  exclusiveLock do
    let m ← look fun files => store.loadCommittedManifest files committed
    Process.ofExcept (raiseIf (m.artifactClass ≠ .checkpoint)
      (.policyViolation "checkpoint markers require checkpoint manifests"))
    let marker ← Process.ofExcept
      (CheckpointMarker.validate kind checkpointId committed.semanticDigest committed.blob
        driverDigest)
    publishBytesNoReplace (markerName marker.checkpointId) marker.encoded
    pure marker

def commitFilesystemCheckpoint (checkpointId : Identifier) (committed : CommittedManifest) :
    StoreProcess CheckpointMarker :=
  store.commitCheckpoint checkpointId committed .filesystem none

def commitApplicationCheckpoint (checkpointId : Identifier) (committed : CommittedManifest)
    (driverDigest : Digest) : StoreProcess CheckpointMarker :=
  store.commitCheckpoint checkpointId committed .application (some driverDigest)

variable [MarkerDecoder]

/-- What `_load_checkpoint` reads under the lock. -/
def readCheckpoint (files : StoreFiles) (checkpointId : Identifier) (kind : CheckpointKind)
    (driverDigest : Option Digest) : Except StoreError (CheckpointMarker × ArtifactManifest) := do
  let marker ← loadCheckpointMarker files checkpointId
  raiseIf (marker.checkpointKind ≠ kind ∨ marker.driverDigest ≠ driverDigest)
    (.integrity "checkpoint marker differs from the requested recovery implementation")
  let m ← store.loadCommittedManifest files marker.committed
  raiseIf (m.artifactClass ≠ .checkpoint)
    (.integrity "checkpoint marker references a non-checkpoint manifest")
  pure (marker, m)

/-- `_load_checkpoint`. -/
def loadCheckpoint (checkpointId : Identifier) (kind : CheckpointKind)
    (driverDigest : Option Digest) : StoreProcess (CheckpointMarker × ArtifactManifest) := do
  let requested ← Process.ofExcept (CheckpointMarker.validate kind checkpointId
    ("sha256:" ++ String.ofList (List.replicate 64 '0'))
    ⟨"sha256:" ++ String.ofList (List.replicate 64 '0'), 0⟩ driverDigest)
  exclusiveLock (look fun files =>
    store.readCheckpoint files requested.checkpointId kind driverDigest)

def loadFilesystemCheckpoint (checkpointId : Identifier) :
    StoreProcess (CheckpointMarker × ArtifactManifest) :=
  store.loadCheckpoint checkpointId .filesystem none

def loadApplicationCheckpoint (checkpointId : Identifier) (driverDigest : Digest) :
    StoreProcess (CheckpointMarker × ArtifactManifest) :=
  store.loadCheckpoint checkpointId .application (some driverDigest)

end ContentAddressedStore

end EdaGym
