import EdaGym.Artifacts.ContentRules
import EdaGym.Lib.Triple
import EdaGym.Run.Model
import EdaGym.Specs.Environment

/-!
# The content-addressed store

The files of the store are its blobs, its checkpoint markers and the temporary files of calls that
are under way or have crashed. Every change of a file is one step of a process; a process may be
cut short before any step, and what it has done until then stays.
-/

namespace EdaGym

open Process hiding ofExcept

/-- SHA-256 and AES-256-GCM. -/
class StoreCrypto where
  sha256 : Bytes → Digest
  /-- The ciphertext and the tag. -/
  encrypt : (key nonce aad plaintext : Bytes) → Bytes × Bytes
  decrypt : (key nonce tag aad payload : Bytes) → Option Bytes

export StoreCrypto (sha256)

/-- GCM is a stream mode, and what is encrypted can be decrypted. -/
class LawfulStoreCrypto [StoreCrypto] : Prop where
  length_encrypt : ∀ key nonce aad plaintext,
    (StoreCrypto.encrypt key nonce aad plaintext).1.length = plaintext.length
  decrypt_encrypt : ∀ key nonce aad plaintext,
    StoreCrypto.decrypt key nonce (StoreCrypto.encrypt key nonce aad plaintext).2 aad
      (StoreCrypto.encrypt key nonce aad plaintext).1 = some plaintext

structure EncryptionKey where
  keyId : Identifier
  value : Bytes

/-- What the caller of a write says the content is. -/
structure Disclosure where
  artifactClass : ArtifactClass
  sensitivity : Sensitivity
  visibility : Visibility
  redistribution : Redistribution
deriving DecidableEq

inductive StoreError
  | integrity (message : String)
  | quotaExceeded (message : String)
  | policyViolation (message : String)
  | store (message : String)
  | value (message : String)
  | os (message : String)
  | index (message : String)
  /-- The process has died. -/
  | crashed
deriving DecidableEq, Repr

/-- The message of an exception. -/
def StoreError.message : StoreError → String
  | integrity message | quotaExceeded message | policyViolation message | store message
  | value message | os message | index message => message
  | crashed => ""

/-! ### Files -/

/-- A blob file: the mode byte, the nonce, the tag and what follows the header. -/
structure Envelope where
  encrypted : Bool
  nonce : Bytes
  tag : Bytes
  payload : Bytes
deriving DecidableEq

def HEADER_SIZE : Nat := 37

/-- `st_size`. -/
def Envelope.size (e : Envelope) : Nat := HEADER_SIZE + e.payload.length

structure StoreFiles where
  /-- The files under `blobs`, by the digest that shard and name spell. -/
  blobs : Dict Digest Envelope := .empty
  /-- The files under `checkpoints`, by name. -/
  markers : Dict String Bytes := .empty
  /-- The sizes of the `incoming-` files. -/
  incoming : List Nat := []
  /-- The `publish-` files of `mkstemp` under `checkpoints`; the names it makes up have no dot. -/
  publishing : List Bytes := []

/-- `_stored_bytes_unlocked`. -/
def StoreFiles.storedBytes (files : StoreFiles) : Nat :=
  (files.blobs.values.map Envelope.size).sum + files.incoming.sum

/-- The temporary files of markers share their directory. -/
def isPublishName (name : String) : Bool := "publish-".toList.isPrefixOf name.toList

/-- `_discard_stale_temporary_files_unlocked`. -/
def StoreFiles.discardStale (files : StoreFiles) : StoreFiles :=
  { files with
    incoming := []
    publishing := []
    markers := files.markers.filterKeys fun name => !isPublishName name }

/-- What keeps an operation from its end: the process dies after some steps, or flushing a directory
raises. -/
inductive Interruption
  | dies (stepsLeft : Nat)
  | flushRaises
deriving DecidableEq, Repr

structure StoreWorld where
  files : StoreFiles
  interruption : Option Interruption := none

abbrev StoreProcess (α : Type) := Process StoreWorld StoreError α

/-- One change of the file system. -/
def stepFiles (change : StoreFiles → StoreFiles) : StoreProcess PUnit := fun w =>
  match w.interruption with
  | some (.dies 0) => (.error .crashed, w)
  | some (.dies (n + 1)) =>
    (.ok ⟨⟩, { files := change w.files, interruption := some (.dies n) })
  | some .flushRaises | none => (.ok ⟨⟩, { w with files := change w.files })

/-- `_fsync_directory`. What it was to make durable stays in the directory when it raises. -/
def fsyncDirectory : StoreProcess PUnit := fun w =>
  (if w.interruption = some .flushRaises then .error (.os "Input/output error") else .ok ⟨⟩, w)

/-- Read without changing anything. -/
def look {α : Type} (read : StoreFiles → Except StoreError α) : StoreProcess α :=
  fun w => (read w.files, w)

/-- `with self._exclusive_lock()`; which of the stale files a crash leaves is not observable. -/
def exclusiveLock {α : Type} (body : StoreProcess α) : StoreProcess α := do
  stepFiles StoreFiles.discardStale
  body

/-! ### The store -/

structure ContentAddressedStore where
  policy : ArtifactPolicy
  policyDigest : Digest
  encryptionKey : Option EncryptionKey
  key_iff : encryptionKey.isSome ↔ policy.encryption ≠ .none

/-- What `put_chunks` reads: chunks, then the end or an exception. -/
structure ChunkSource where
  chunks : List Bytes
  failure : Option StoreError := none

/-- `str.encode()`. -/
def utf8 (s : String) : Bytes := s.toUTF8.data.toList

lemma utf8_inj {s s' : String} (h : utf8 s = utf8 s') : s = s' :=
  String.toByteArray_inj.mp (ByteArray.ext (Array.toList_inj.mp h))

lemma utf8_append (s s' : String) : utf8 (s ++ s') = utf8 s ++ utf8 s' := by
  simp [utf8]

def ENVELOPE_MAGIC : Bytes := utf8 "EDAGYMB1"

def MODE_ENCRYPTED : Bytes := utf8 "E"

namespace ContentAddressedStore

variable [StoreCrypto] [ContentRules] (store : ContentAddressedStore)

/-- `_require_disclosure`. -/
def requireDisclosure (d : Disclosure) : Except StoreError Unit := do
  raiseIf (d.sensitivity = .secret)
    (.policyViolation "secret data cannot enter persistent artifact storage")
  let rule := store.policy.rule d.artifactClass
  raiseIf (rule.retentionSeconds = 0)
    (.policyViolation "ephemeral policy forbids persistent storage")
  let requested ←
    (ArtifactDisclosure.validate d.sensitivity d.visibility d.redistribution).mapError .value
  raiseIf (requested ∉ rule.allowedDisclosures)
    (.policyViolation "artifact disclosure is not allowed by its class policy")
  raiseIf (d.sensitivity = .confidential ∧ store.encryptionKey = none)
    (.policyViolation "confidential artifacts require managed encryption")

/-- `_restricted_content_allowed`. -/
def restrictedContentAllowed (d : Disclosure) : Bool :=
  store.encryptionKey.isSome && d.artifactClass ∈ RAW_EDA_ARTIFACT_CLASSES &&
    d.sensitivity = PROTECTED_RAW_DISCLOSURE.sensitivity &&
    d.visibility = PROTECTED_RAW_DISCLOSURE.visibility &&
    d.redistribution = PROTECTED_RAW_DISCLOSURE.redistribution

/-- The two scanners of one write. -/
structure Scanners where
  credential : ContentRuleScanner
  restricted : ContentRuleScanner

def startScanners : Scanners := ⟨{ rules := contentRules }, { rules := restrictedContentRules }⟩

/-- `_scan_disclosure_chunk`. -/
def scanDisclosureChunk (scanners : Scanners) (restrictedContentAllowed : Bool) (chunk : Bytes) :
    Except StoreError Scanners := do
  let credential := scanners.credential.update chunk
  raiseIf (credential.found = true)
    (.policyViolation "artifact content violates the credential policy")
  let restricted := scanners.restricted.update chunk
  raiseIf (restricted.found = true ∧ restrictedContentAllowed = false)
    (.policyViolation "artifact content violates the restricted disclosure policy")
  pure ⟨credential, restricted⟩

/-- Scan the chunks one after the other. -/
def scanChunks (restrictedContentAllowed : Bool) (scanners : Scanners) (chunks : List Bytes) :
    Except StoreError Scanners :=
  foldSteps (fun scanners chunk => scanDisclosureChunk scanners restrictedContentAllowed chunk)
    scanners chunks

/-- The disclosure is allowed, no rule refuses the content and the source can be read to its end. -/
structure PutAdmitted (source : ChunkSource) (d : Disclosure) : Prop where
  disclosure : store.requireDisclosure d = .ok ⟨⟩
  scanned : ∃ scanners,
    scanChunks (store.restrictedContentAllowed d) startScanners source.chunks = .ok scanners
  complete : source.failure = none

/-- `_aad`, of the bytes before the tag. -/
def aad (nonce : Bytes) : Bytes :=
  ENVELOPE_MAGIC ++ MODE_ENCRYPTED ++ nonce ++ [0] ++ utf8 store.policyDigest ++ [0] ++
    match store.encryptionKey with
    | none => []
    | some key => utf8 key.keyId

/-- The complete envelope of a content. -/
def envelope (nonce content : Bytes) : Envelope :=
  match store.encryptionKey with
  | none => { encrypted := false, nonce := List.replicate 12 0, tag := List.replicate 16 0,
              payload := content }
  | some key =>
    let sealed := StoreCrypto.encrypt key.value nonce (store.aad nonce) content
    { encrypted := true, nonce, tag := sealed.2, payload := sealed.1 }

/-- The content of an envelope read within a bound. -/
def openEnvelope (e : Envelope) (bound : Nat) : Except StoreError Bytes :=
  let bounded : Except StoreError Unit := raiseIf (e.payload.length > bound)
    (.integrity "artifact exceeds its declared read bound")
  match e.encrypted, store.encryptionKey with
  | true, none => .error (.policyViolation "encrypted artifact requires its bound key")
  | true, some key => do
    bounded
    orRaise (StoreCrypto.decrypt key.value e.nonce e.tag (store.aad e.nonce) e.payload)
      (.integrity "artifact authentication failed")
  | false, none => do
    raiseIf ((e.nonce.any fun b => b ≠ 0) ∨ e.tag.any fun b => b ≠ 0)
      (.policyViolation "artifact envelope encryption mode is inconsistent")
    bounded
    pure e.payload
  | false, some _ =>
    .error (.policyViolation "artifact envelope encryption mode is inconsistent")

/-- `_verified_plaintext`. -/
def verifiedPlaintext (files : StoreFiles) (reference : BlobRef) (maximumBytes : Nat) :
    Except StoreError Bytes := do
  let e ← orRaise (files.blobs.get? reference.digest)
    (.integrity "artifact object cannot be opened safely")
  let content ← store.openEnvelope e (min maximumBytes reference.sizeBytes)
  raiseIf (content.length ≠ reference.sizeBytes ∨ sha256 content ≠ reference.digest)
    (.integrity "artifact content does not match its reference")
  pure content

def verify (files : StoreFiles) (reference : BlobRef) : Except StoreError Unit := do
  let _ ← store.verifiedPlaintext files reference reference.sizeBytes

/-- The loop of `put_chunks`: scan, write and measure one chunk after the other. -/
def writeChunks (used : Nat) (restrictedContentAllowed : Bool) :
    Scanners → Bytes → List Bytes → StoreProcess Bytes
  | _, content, [] => pure content
  | scanners, content, chunk :: chunks => do
    let scanners ← Process.ofExcept
      (scanDisclosureChunk scanners restrictedContentAllowed chunk)
    stepFiles fun files =>
      { files with incoming := files.incoming.modifyHead (· + chunk.length) }
    Process.ofExcept (raiseIf
      (used + (HEADER_SIZE + (content ++ chunk).length) > store.policy.quotaBytes)
      (.quotaExceeded "artifact store quota would be exceeded"))
    writeChunks used restrictedContentAllowed scanners (content ++ chunk) chunks

/-- Give the finished temporary file its name; what has that name already is verified. -/
def linkBlob (nonce content : Bytes) (blob : BlobRef) : StoreProcess PUnit := do
  let present ← look fun files => .ok (decide (blob.digest ∈ files.blobs))
  if present then look fun files => store.verify files blob
  else do
    stepFiles fun files =>
      { files with blobs := files.blobs.insert blob.digest (store.envelope nonce content) }
    fsyncDirectory

def unlinkIncoming : StoreProcess PUnit :=
  stepFiles fun files => { files with incoming := files.incoming.tail }

/-- The body of the `try` in `put_chunks`. -/
def putIncoming (used : Nat) (nonce : Bytes) (source : ChunkSource) (d : Disclosure) :
    StoreProcess BlobRef := do
  stepFiles fun files => { files with incoming := files.incoming.modifyHead (· + HEADER_SIZE) }
  let content ← store.writeChunks used (store.restrictedContentAllowed d) startScanners []
    source.chunks
  Process.ofExcept (source.failure.elim (.ok ⟨⟩) .error)
  Process.ofExcept (raiseIf (used + (HEADER_SIZE + content.length) > store.policy.quotaBytes)
    (.quotaExceeded "artifact store quota would be exceeded"))
  let blob : BlobRef := ⟨sha256 content, content.length⟩
  store.linkBlob nonce content blob
  unlinkIncoming
  fsyncDirectory
  pure blob

/-- `put_chunks`, with the nonce that `os.urandom` gives it. -/
def putChunks (nonce : Bytes) (source : ChunkSource) (d : Disclosure) : StoreProcess BlobRef := do
  Process.ofExcept (store.requireDisclosure d)
  exclusiveLock do
    let used ← look fun files => .ok files.storedBytes
    stepFiles fun files => { files with incoming := 0 :: files.incoming }
    finallyDo (store.putIncoming used nonce source d) unlinkIncoming

def putBytes (nonce content : Bytes) (d : Disclosure) : StoreProcess BlobRef :=
  store.putChunks nonce { chunks := [content] } d

/-- `stored_bytes`. -/
def storedBytes : StoreProcess Nat := exclusiveLock (look fun files => .ok files.storedBytes)

/-! ### What a reading depends on -/

variable {store} {files files' : StoreFiles} {reference : BlobRef}

section

omit [ContentRules]

lemma verifiedPlaintext_congr
    (h : files.blobs.get? reference.digest = files'.blobs.get? reference.digest) :
    store.verifiedPlaintext files reference = store.verifiedPlaintext files' reference := by
  funext maximumBytes
  rw [verifiedPlaintext, verifiedPlaintext, h]

lemma mem_of_plaintext {bound : Nat} {content : Bytes}
    (h : store.verifiedPlaintext files reference bound = .ok content) :
    reference.digest ∈ files.blobs := by
  simp only [verifiedPlaintext, bind_eq_ok, orRaise_eq_ok] at h
  obtain ⟨e, hget, -⟩ := h
  exact Dict.mem_of_get? hget

lemma verify_congr (h : files.blobs.get? reference.digest = files'.blobs.get? reference.digest) :
    store.verify files reference = store.verify files' reference := by
  rw [verify, verify, verifiedPlaintext_congr h]

end

end ContentAddressedStore

end EdaGym
