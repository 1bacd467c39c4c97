import EdaGym.Artifacts.Checkpoints

/-!
# Garbage collection

Live are the blobs of the records that are pinned or have not expired, and the entries of those
that are manifests. Markers of manifests that are not live go first, then all other blobs.
-/

namespace EdaGym

open Process hiding ofExcept

structure RetainedArtifact where
  record : ArtifactRecord
  recordedAt : Datetime
  checkpointPinned : Bool := false

def MICROSECONDS_PER_SECOND : Int := 1000000

def ArtifactRecord.toDisclosure (record : ArtifactRecord) : Disclosure where
  artifactClass := record.artifactClass
  sensitivity := record.sensitivity
  visibility := record.visibility
  redistribution := record.redistribution

/-- `live` and `live_checkpoint_manifests`. -/
structure LiveArtifacts where
  digests : List Digest := []
  checkpoints : List (Digest × Nat × Digest) := []

/-- The checkpoint id that a marker's file name spells. -/
def markerStem (name : String) : Option Identifier :=
  if ".json".toList.isSuffixOf name.toList ∧ 5 < name.toList.length then
    some (String.ofList (name.toList.take (name.toList.length - 5)))
  else none

/-- The directory of a blob: the two digits after `sha256:`. -/
def shardName (digest : Digest) : String := String.ofList ((digest.toList.drop 7).take 2)

namespace ContentAddressedStore

variable [StoreCrypto] [ContentRules] [ManifestDecoder] [MarkerDecoder]
variable (store : ContentAddressedStore)

/-- Pinned, or not expired. -/
def retains (now : Datetime) (retained : RetainedArtifact) : Bool :=
  let rule := store.policy.rule retained.record.artifactClass
  retained.checkpointPinned ||
    now < retained.recordedAt + rule.retentionSeconds * MICROSECONDS_PER_SECOND

def retainedRecords (retained : List RetainedArtifact) (now : Datetime) : List ArtifactRecord :=
  (retained.filter (store.retains now)).map RetainedArtifact.record

/-- One retained record with what its manifest lists. -/
def markLive (files : StoreFiles) (live : LiveArtifacts) (record : ArtifactRecord) :
    Except StoreError LiveArtifacts :=
  let live := { live with digests := live.digests ++ [record.blob.digest] }
  if record.mediaType ≠ ARTIFACT_MANIFEST_MEDIA_TYPE then .ok live
  else do
    let m ← store.loadManifestBlob files record.blob none
    raiseIf (m.toDisclosure ≠ record.toDisclosure)
      (.integrity "retained manifest disclosure disagrees with its artifact record")
    pure { digests := live.digests ++ m.entries.map fun entry => entry.blob.digest
           checkpoints :=
             if record.artifactClass = .checkpoint then
               live.checkpoints ++ [(record.blob.digest, record.blob.sizeBytes, m.digest)]
             else live.checkpoints }

def liveArtifacts (files : StoreFiles) (records : List ArtifactRecord) :
    Except StoreError LiveArtifacts :=
  foldSteps (store.markLive files) {} records

/-- The checkpoint manifest a marker stands for. -/
def markerReference (marker : CheckpointMarker) : Digest × Nat × Digest :=
  (marker.manifestBlob.digest, marker.manifestBlob.sizeBytes, marker.manifestDigest)

/-- Read the marker of a file name. -/
def namedMarker (files : StoreFiles) (name : String) : Except StoreError CheckpointMarker := do
  let checkpointId ← orRaise (markerStem name)
    (.store "checkpoint root contains an invalid marker name")
  loadCheckpointMarker files checkpointId

def collectMarker (live : LiveArtifacts) (name : String) : StoreProcess PUnit := do
  let marker ← look fun files => namedMarker files name
  if markerReference marker ∈ live.checkpoints then pure ⟨⟩
  else stepFiles fun files => { files with markers := files.markers.erase name }

/-- Remove the blobs that are not live; the removed ones. -/
def collectBlobs (live : LiveArtifacts) : List Digest → StoreProcess (List Digest)
  | [] => pure []
  | digest :: digests =>
    if digest ∈ live.digests then collectBlobs live digests
    else do
      stepFiles fun files => { files with blobs := files.blobs.erase digest }
      let removed ← collectBlobs live digests
      pure (digest :: removed)

def garbageCollect (retained : List RetainedArtifact) (now : Datetime) :
    StoreProcess (List Digest) :=
  exclusiveLock do
    let live ← look fun files => store.liveArtifacts files (store.retainedRecords retained now)
    let names ← look fun files => .ok (sortedStrings files.markers.keys)
    forEach (collectMarker live) names
    let digests ← look fun files => .ok (sortedBy shardName files.blobs.keys)
    let removed ← collectBlobs live digests
    pure (sortedStrings removed)

end ContentAddressedStore

end EdaGym
