import EdaGym.Artifacts.Store
import EdaGym.Lib.CanonicalJson
import EdaGym.Lib.PosixPath

/-!
# Artifact manifests

A manifest lists the files of a tree with their blobs. It is stored as a blob itself, in canonical
JSON, and read back within a bound of its own.
-/

namespace EdaGym

open Process hiding ofExcept

def ARTIFACT_MANIFEST_MEDIA_TYPE : MediaType := "application/vnd.edagym.artifact-manifest+json"

/-! ### Canonical JSON -/

def Sensitivity.value : Sensitivity → String
  | .pub => "public"
  | .internal => "internal"
  | .confidential => "confidential"
  | .secret => "secret"

def Redistribution.value : Redistribution → String
  | .allowed => "allowed"
  | .restricted => "restricted"
  | .forbidden => "forbidden"

def Visibility.value : Visibility → String
  | .pub => "public"
  | .participant => "participant"
  | .reviewer => "reviewer"
  | .verifier => "verifier"
  | .author => "author"

def ArtifactClass.value : ArtifactClass → String
  | .ephemeral => "ephemeral"
  | .diagnostic => "diagnostic"
  | .candidate => "candidate"
  | .checkpoint => "checkpoint"
  | .evidence => "evidence"
  | .measurement => "measurement"
  | .release => "release"
  | .training => "training"

def BlobRef.json (b : BlobRef) : String :=
  "\x7b\"digest\":" ++ jsonString b.digest ++ ",\"size_bytes\":" ++ toString b.sizeBytes ++ "\x7d"

/-! ### Manifests -/

/-- Reject paths that could escape a generated task or artifact root. -/
def validateRelativePath (value : String) : Except StoreError String :=
  if isAbsolutePath value = true ∨ value = "" ∨ ∃ part ∈ posixParts value, part ∈ ["", ".", ".."]
  then .error (.value "path must be a normalized non-empty relative POSIX path")
  else .ok (asPosix (posixParts value))

/-- The modes a manifest knows, `0o644` and `0o755`. -/
inductive EntryMode
  | regular | executable
deriving DecidableEq, Repr

def EntryMode.value : EntryMode → Nat
  | .regular => 420
  | .executable => 493

structure ManifestEntry where
  path : String
  blob : BlobRef
  mode : EntryMode
  path_valid : validateRelativePath path = .ok path := by decide

/-- One path is a file where the other needs a directory. -/
def PrefixConflict (first second : ManifestEntry) : Prop :=
  posixParts first.path <+: posixParts second.path ∨
    posixParts second.path <+: posixParts first.path

instance (first second : ManifestEntry) : Decidable (PrefixConflict first second) :=
  inferInstanceAs (Decidable (_ ∨ _))

structure ArtifactManifest extends Disclosure where
  entries : List ManifestEntry
  entries_ne_nil : entries ≠ [] := by decide
  entries_sorted : (entries.map ManifestEntry.path).Pairwise (· < ·) := by decide
  prefix_free : entries.Pairwise fun first second => ¬ PrefixConflict first second := by decide
  not_secret : sensitivity ≠ .secret := by decide
  public_policy : visibility = .pub → sensitivity = .pub ∧ redistribution = .allowed := by decide

def ManifestEntry.json (entry : ManifestEntry) : String :=
  "\x7b\"blob\":" ++ entry.blob.json ++ ",\"mode\":" ++ toString entry.mode.value ++
    ",\"path\":" ++ jsonString entry.path ++ "\x7d"

def ArtifactManifest.json (m : ArtifactManifest) : String :=
  "\x7b\"artifact_class\":" ++ jsonString m.artifactClass.value ++
    ",\"entries\":[" ++ String.intercalate "," (m.entries.map ManifestEntry.json) ++
    "],\"redistribution\":" ++ jsonString m.redistribution.value ++
    ",\"schema_version\":1,\"sensitivity\":" ++ jsonString m.sensitivity.value ++
    ",\"visibility\":" ++ jsonString m.visibility.value ++ "\x7d"

/-- `canonical_bytes(manifest)`. -/
def ArtifactManifest.bytes (m : ArtifactManifest) : Bytes := utf8 m.json

/-- `canonical_digest`, of the canonical bytes of a value. -/
def canonicalDigest [StoreCrypto] (domain : String) (bytes : Bytes) : Digest :=
  sha256 (utf8 "edagym" ++ [0] ++ utf8 domain ++ [0] ++ bytes)

def ArtifactManifest.digest [StoreCrypto] (m : ArtifactManifest) : Digest :=
  canonicalDigest "artifact-manifest-v1" m.bytes

structure CommittedManifest where
  semanticDigest : Digest
  blob : BlobRef

/-- JSON parsing and validation of a manifest: `model_validate(json.loads(content))` and
`model_validate_json(content)`. -/
class ManifestDecoder where
  validateManifest : Bytes → Option ArtifactManifest
  validateManifestJson : Bytes → Option ArtifactManifest

export ManifestDecoder (validateManifest validateManifestJson)

def MANIFEST_READ_BOUND : Nat := 16 * 1024 * 1024

namespace ContentAddressedStore

variable [StoreCrypto] [ContentRules] [ManifestDecoder] (store : ContentAddressedStore)

def putManifest (nonce : Bytes) (m : ArtifactManifest) : StoreProcess CommittedManifest := do
  let blob ← store.putBytes nonce m.bytes m.toDisclosure
  pure { semanticDigest := m.digest, blob }

/-- `_load_manifest_blob`. -/
def loadManifestBlob (files : StoreFiles) (blob : BlobRef)
    (expectedSemanticDigest : Option Digest) : Except StoreError ArtifactManifest := do
  let content ← store.verifiedPlaintext files blob MANIFEST_READ_BOUND
  let m ← orRaise (validateManifest content) (.integrity "committed manifest is invalid")
  raiseIf (m.bytes ≠ content ∨ ∃ expected ∈ expectedSemanticDigest, m.digest ≠ expected)
    (.integrity "committed manifest identity is inconsistent")
  foldSteps (fun (_ : Unit) entry => store.verify files (ManifestEntry.blob entry)) ⟨⟩ m.entries
  pure m

def loadCommittedManifest (files : StoreFiles) (committed : CommittedManifest) :
    Except StoreError ArtifactManifest :=
  store.loadManifestBlob files committed.blob (some committed.semanticDigest)

/-! ### What a manifest is read from -/

variable {store}

section

omit [ContentRules]

variable {m : ArtifactManifest} {blob : BlobRef}

lemma loadManifestBlob_eq_ok {files : StoreFiles} {expected : Option Digest} :
    store.loadManifestBlob files blob expected = .ok m ↔
      store.verifiedPlaintext files blob MANIFEST_READ_BOUND = .ok m.bytes ∧
        validateManifest m.bytes = some m ∧ (∀ d ∈ expected, m.digest = d) ∧
        ∀ entry ∈ m.entries, store.verify files entry.blob = .ok ⟨⟩ := by
  simp only [loadManifestBlob, bind_eq_ok, orRaise_eq_ok, raiseIf_eq_ok, exists_const, pure_eq_ok,
    foldSteps_unit_eq_ok]
  constructor
  · rintro ⟨content, hread, m', hm', hidentity, hentries, rfl⟩
    push Not at hidentity
    obtain ⟨rfl, hdigest⟩ := hidentity
    exact ⟨hread, hm', hdigest, hentries⟩
  · rintro ⟨hread, hm, hdigest, hentries⟩
    refine ⟨m.bytes, hread, m, hm, ?_, hentries, rfl⟩
    push Not
    exact ⟨rfl, hdigest⟩

/-- A manifest that loads still loads where its blob and those of its entries are the same. -/
lemma loadManifestBlob_mono {files files' : StoreFiles} {expected : Option Digest}
    (h : store.loadManifestBlob files blob expected = .ok m)
    (hblob : files'.blobs.get? blob.digest = files.blobs.get? blob.digest)
    (hentries : ∀ entry ∈ m.entries,
      files'.blobs.get? entry.blob.digest = files.blobs.get? entry.blob.digest) :
    store.loadManifestBlob files' blob expected = .ok m := by
  rw [loadManifestBlob_eq_ok] at h ⊢
  obtain ⟨hread, hm, hdigest, hverify⟩ := h
  refine ⟨?_, hm, hdigest, fun entry hentry => ?_⟩
  · rw [verifiedPlaintext_congr hblob, hread]
  · rw [verify_congr (hentries entry hentry), hverify entry hentry]

/-- The expected digest is only compared. -/
lemma loadManifestBlob_some {files : StoreFiles} {d : Digest} :
    store.loadManifestBlob files blob (some d) = .ok m ↔
      store.loadManifestBlob files blob none = .ok m ∧ m.digest = d := by
  simp only [loadManifestBlob_eq_ok, Option.mem_def, Option.some.injEq, reduceCtorEq,
    false_implies, implies_true, true_and, forall_eq']
  tauto

end

end ContentAddressedStore

end EdaGym
