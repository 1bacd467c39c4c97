import EdaGym.Artifacts.Quota

/-!
# The bytes of an envelope

A blob is written as a header with an empty tag and one encoded chunk after the other; the tag is
patched in at the end. A reading gives the content for the envelopes of it that a store with the
same key and policy writes, and refuses every other file.
-/

namespace EdaGym

open Process hiding ofExcept
open StoreCrypto (encrypt decrypt)

/-- What a GCM encryptor returns for one more chunk. -/
class StreamingCrypto where
  update : (key nonce aad before chunk : Bytes) → Bytes

/-- Encryption does not depend on the cutting, and what decrypts was encrypted. -/
class AuthenticatedCrypto [StoreCrypto] [StreamingCrypto] : Prop extends LawfulStoreCrypto where
  encrypt_append : ∀ key nonce aad before chunk,
    (encrypt key nonce aad (before ++ chunk)).1 =
      (encrypt key nonce aad before).1 ++ StreamingCrypto.update key nonce aad before chunk
  length_tag : ∀ key nonce aad plaintext, (encrypt key nonce aad plaintext).2.length = 16
  encrypt_decrypt : ∀ key nonce tag aad payload plaintext,
    decrypt key nonce tag aad payload = some plaintext →
      encrypt key nonce aad plaintext = (payload, tag)

def NONCE_SIZE : Nat := 12

def TAG_SIZE : Nat := 16

def MODE_PLAINTEXT : Bytes := utf8 "P"

lemma length_magic : ENVELOPE_MAGIC.length = 8 := by decide

/-- The file that an envelope is. -/
def Envelope.bytes (e : Envelope) : Bytes :=
  ENVELOPE_MAGIC ++ ((if e.encrypted then MODE_ENCRYPTED else MODE_PLAINTEXT) ++
    (e.nonce ++ (e.tag ++ e.payload)))

/-- `stream.seek(offset)` and a write. -/
def overwrite (file : Bytes) (offset : Nat) (data : Bytes) : Bytes :=
  file.take offset ++ data ++ file.drop (offset + data.length)

lemma overwrite_append {before gap after data : Bytes} (h : data.length = gap.length) :
    overwrite (before ++ gap ++ after) before.length data = before ++ data ++ after := by
  rw [overwrite, h, List.append_assoc before gap, List.take_left, ← List.drop_drop, List.drop_left,
    List.drop_left]

/-- The header of a blob file, and what follows it. -/
def readEnvelope (file : Bytes) : Except StoreError Envelope := do
  raiseIf (file.length < HEADER_SIZE) (.integrity "artifact envelope is truncated")
  raiseIf (file.take 8 ≠ ENVELOPE_MAGIC) (.integrity "artifact envelope has an invalid format")
  let mode := (file.drop 8).take 1
  raiseIf (mode ≠ MODE_ENCRYPTED ∧ mode ≠ MODE_PLAINTEXT)
    (.policyViolation "artifact envelope encryption mode is inconsistent")
  pure {
    encrypted := mode = MODE_ENCRYPTED
    nonce := (file.drop 9).take NONCE_SIZE
    tag := (file.drop 21).take TAG_SIZE
    payload := file.drop HEADER_SIZE }

lemma readEnvelope_eq_ok {file : Bytes} {e : Envelope} : readEnvelope file = .ok e ↔
    e.nonce.length = NONCE_SIZE ∧ e.tag.length = TAG_SIZE ∧ file = e.bytes := by
  simp only [readEnvelope, bind_eq_ok, raiseIf_eq_ok, exists_const, pure_eq_ok, not_lt, not_not]
  simp only [HEADER_SIZE, NONCE_SIZE, TAG_SIZE]
  constructor
  · rintro ⟨hlength, hmagic, hmode, rfl⟩
    have hcut : file = file.take 8 ++ ((file.drop 8).take 1 ++ ((file.drop 9).take 12 ++
        ((file.drop 21).take 16 ++ file.drop 37))) := by
      have hnext : ∀ n k, file.drop n = (file.drop n).take k ++ file.drop (n + k) := fun n k => by
        rw [← List.drop_drop, List.take_append_drop]
      rw [← hnext 21 16, ← hnext 9 12, ← hnext 8 1, List.take_append_drop]
    refine ⟨by simp; omega, by simp; omega, ?_⟩
    rw [Envelope.bytes, ← hmagic]
    by_cases hencrypted : (file.drop 8).take 1 = MODE_ENCRYPTED
    · simpa only [hencrypted, decide_true, if_true] using hcut
    · have hplain : (file.drop 8).take 1 = MODE_PLAINTEXT :=
        not_not.mp fun h => hmode ⟨hencrypted, h⟩
      rw [hplain] at hcut hencrypted ⊢
      simpa only [hencrypted, decide_false, Bool.false_eq_true, if_false] using hcut
  · rintro ⟨hnonce, htag, rfl⟩
    have hmode : (if e.encrypted then MODE_ENCRYPTED else MODE_PLAINTEXT).length = 1 := by
      cases e.encrypted <;> decide
    have h8 : e.bytes.drop 8 = _ := List.drop_left' length_magic
    have h9 : e.bytes.drop 9 = e.nonce ++ (e.tag ++ e.payload) := by
      rw [← List.drop_drop (i := 1) (j := 8), h8, List.drop_left' hmode]
    have h21 : e.bytes.drop 21 = e.tag ++ e.payload := by
      rw [← List.drop_drop (i := 12) (j := 9), h9, List.drop_left' hnonce]
    have h37 : e.bytes.drop 37 = e.payload := by
      rw [← List.drop_drop (i := 16) (j := 21), h21, List.drop_left' htag]
    have hlength : 37 ≤ e.bytes.length := by
      simp only [Envelope.bytes, List.length_append, length_magic, hmode, hnonce, htag]
      omega
    refine ⟨hlength, List.take_left' length_magic, ?_⟩
    rw [h8, h9, h21, h37, List.take_left' hmode, List.take_left' hnonce, List.take_left' htag]
    obtain ⟨encrypted, nonce, tag, payload⟩ := e
    cases encrypted
    · exact ⟨by simp, by simp [show MODE_PLAINTEXT ≠ MODE_ENCRYPTED by decide]⟩
    · exact ⟨by simp, by simp⟩

namespace ContentAddressedStore

variable [StoreCrypto] [StreamingCrypto] (store : ContentAddressedStore)

/-! ### The writer -/

/-- `_start_envelope`. -/
def startEnvelope (nonce : Bytes) : Bytes :=
  match store.encryptionKey with
  | none => ENVELOPE_MAGIC ++ MODE_PLAINTEXT ++ List.replicate (NONCE_SIZE + TAG_SIZE) 0
  | some _ => ENVELOPE_MAGIC ++ MODE_ENCRYPTED ++ nonce ++ List.replicate TAG_SIZE 0

/-- What is written of the chunks that follow some bytes. -/
def encodeChunks (nonce : Bytes) : (before : Bytes) → List Bytes → Bytes
  | _, [] => []
  | before, chunk :: chunks =>
    (match store.encryptionKey with
      | none => chunk
      | some key => StreamingCrypto.update key.value nonce (store.aad nonce) before chunk) ++
      encodeChunks nonce (before ++ chunk) chunks

/-- The file that `put_chunks` links, with the nonce of `os.urandom`. -/
def writeFile (nonce : Bytes) (chunks : List Bytes) : Bytes :=
  let file := store.startEnvelope nonce ++ store.encodeChunks nonce [] chunks
  match store.encryptionKey with
  | none => file
  | some key => overwrite file (ENVELOPE_MAGIC.length + 1 + NONCE_SIZE)
      (encrypt key.value nonce (store.aad nonce) chunks.flatten).2

variable {store} {nonce : Bytes} {chunks : List Bytes}

omit [StoreCrypto] in
lemma encodeChunks_none (hkey : store.encryptionKey = none) (before : Bytes) :
    store.encodeChunks nonce before chunks = chunks.flatten := by
  induction chunks generalizing before with
  | nil => rfl
  | cons chunk chunks ih => rw [encodeChunks, ih, hkey, List.flatten_cons]

lemma encodeChunks_some [AuthenticatedCrypto] {key : EncryptionKey}
    (hkey : store.encryptionKey = some key) (before : Bytes) :
    (encrypt key.value nonce (store.aad nonce) (before ++ chunks.flatten)).1 =
      (encrypt key.value nonce (store.aad nonce) before).1 ++
        store.encodeChunks nonce before chunks := by
  induction chunks generalizing before with
  | nil => simp [encodeChunks]
  | cons chunk chunks ih =>
    rw [encodeChunks, hkey, List.flatten_cons, ← List.append_assoc, ih,
      AuthenticatedCrypto.encrypt_append, List.append_assoc]

/-- The patched file is the envelope of the content, however it was cut. -/
lemma writeFile_eq [AuthenticatedCrypto] (hnonce : nonce.length = NONCE_SIZE) :
    store.writeFile nonce chunks = (store.envelope nonce chunks.flatten).bytes := by
  rw [writeFile, startEnvelope, envelope]
  cases hkey : store.encryptionKey with
  | none =>
    rw [encodeChunks_none hkey]
    simp only [Envelope.bytes, NONCE_SIZE, TAG_SIZE, List.replicate_add, List.append_assoc,
      Bool.false_eq_true, if_false]
  | some key =>
    have hempty : (encrypt key.value nonce (store.aad nonce) []).1 = [] :=
      List.eq_nil_of_length_eq_zero (LawfulStoreCrypto.length_encrypt _ _ _ _)
    have hencoded := @encodeChunks_some _ _ _ nonce chunks _ _ hkey []
    rw [hempty, List.nil_append, List.nil_append] at hencoded
    have hhead : ENVELOPE_MAGIC.length + 1 + NONCE_SIZE =
        (ENVELOPE_MAGIC ++ MODE_ENCRYPTED ++ nonce).length := by
      rw [List.length_append, List.length_append, hnonce]
      rfl
    have htag : (encrypt key.value nonce (store.aad nonce) chunks.flatten).2.length =
        (List.replicate TAG_SIZE (0 : UInt8)).length := by
      rw [AuthenticatedCrypto.length_tag, List.length_replicate]
      rfl
    simp only [← hencoded, hhead, overwrite_append htag]
    simp only [Envelope.bytes, List.append_assoc, if_true]

/-! ### The reader -/

omit [StreamingCrypto] in
variable (store) in
/-- `_verified_plaintext` of the bytes of a file. -/
def readFile (file : Bytes) (reference : BlobRef) (maximumBytes : Nat) :
    Except StoreError Bytes := do
  let e ← readEnvelope file
  let content ← store.openEnvelope e (min maximumBytes reference.sizeBytes)
  raiseIf (content.length ≠ reference.sizeBytes ∨ sha256 content ≠ reference.digest)
    (.integrity "artifact content does not match its reference")
  pure content

/-- What is read of an envelope of the right shape is what the store puts into one. -/
lemma envelope_of_openEnvelope [AuthenticatedCrypto] {e : Envelope} {bound : Nat} {content : Bytes}
    (hnonce : e.nonce.length = NONCE_SIZE) (htag : e.tag.length = TAG_SIZE)
    (h : store.openEnvelope e bound = .ok content) :
    content.length ≤ bound ∧ e = store.envelope e.nonce content := by
  obtain ⟨encrypted, nonce, tag, payload⟩ := e
  rw [openEnvelope] at h
  rw [envelope]
  cases encrypted <;> cases hkey : store.encryptionKey <;>
    simp only [hkey, bind_eq_ok, raiseIf_eq_ok, exists_const, pure_eq_ok, not_or, orRaise_eq_ok,
      not_lt, reduceCtorEq] at h
  · obtain ⟨⟨hn, ht⟩, hbound, rfl⟩ := h
    have hzero : ∀ {bytes : Bytes} {n : Nat}, bytes.length = n →
        ¬ (bytes.any fun b => b ≠ 0) = true → bytes = List.replicate n 0 := by
      intro bytes n hlength hall
      simpa [List.eq_replicate_iff, hlength] using hall
    obtain rfl : nonce = List.replicate NONCE_SIZE 0 := hzero hnonce hn
    obtain rfl : tag = List.replicate TAG_SIZE 0 := hzero htag ht
    exact ⟨hbound, rfl⟩
  · next key =>
    obtain ⟨hbound, hopen⟩ := h
    have hsealed := AuthenticatedCrypto.encrypt_decrypt _ _ _ _ _ _ hopen
    have hlength := LawfulStoreCrypto.length_encrypt key.value nonce (store.aad nonce) content
    rw [hsealed] at hlength
    simp only [hsealed]
    exact ⟨hlength ▸ hbound, trivial⟩

lemma envelope_sized [AuthenticatedCrypto] (hnonce : nonce.length = NONCE_SIZE) (content : Bytes) :
    (store.envelope nonce content).nonce.length = NONCE_SIZE ∧
      (store.envelope nonce content).tag.length = TAG_SIZE := by
  rw [envelope]
  split
  · exact ⟨rfl, rfl⟩
  · exact ⟨hnonce, AuthenticatedCrypto.length_tag _ _ _ _⟩

/-- A reading succeeds on the envelopes of what its reference names. -/
lemma readFile_eq_ok [AuthenticatedCrypto] {file content : Bytes} {reference : BlobRef}
    {maximumBytes : Nat} : store.readFile file reference maximumBytes = .ok content ↔
      reference = blobOf content ∧ content.length ≤ maximumBytes ∧
        ∃ nonce, nonce.length = NONCE_SIZE ∧ file = (store.envelope nonce content).bytes := by
  simp only [readFile, bind_eq_ok, raiseIf_eq_ok, exists_const, pure_eq_ok, readEnvelope_eq_ok,
    not_or, not_not]
  constructor
  · rintro ⟨e, ⟨hnonce, htag, rfl⟩, content, hopen, ⟨hsize, hdigest⟩, rfl⟩
    obtain ⟨hbound, he⟩ := envelope_of_openEnvelope hnonce htag hopen
    refine ⟨?_, (Nat.le_min.mp hbound).1, e.nonce, hnonce, congrArg Envelope.bytes he⟩
    rw [blobOf, hsize, hdigest]
  · rintro ⟨rfl, hbound, nonce, hnonce, rfl⟩
    obtain ⟨hnonce', htag⟩ := @envelope_sized _ _ store _ _ hnonce content
    exact ⟨_, ⟨hnonce', htag, rfl⟩, content,
      store.openEnvelope_envelope nonce (Nat.le_min.mpr ⟨hbound, le_rfl⟩), ⟨rfl, rfl⟩, rfl⟩

variable [ContentRules]

/-- What `put_chunks` promises of the reference that it returns, whatever file replaces the blob. -/
structure StoredExactly (store : ContentAddressedStore) (nonce : Bytes) (chunks : List Bytes)
    (files files' : StoreFiles) (blob : BlobRef) : Prop where
  reference : blob = ⟨sha256 chunks.flatten, chunks.flatten.length⟩
  uncut : ∀ chunks', chunks'.flatten = chunks.flatten →
    store.writeFile nonce chunks' = store.writeFile nonce chunks
  linked : blob.digest ∉ files.blobs →
    (files'.blobs.get? blob.digest).map Envelope.bytes = some (store.writeFile nonce chunks)
  read : ∀ bound, chunks.flatten.length ≤ bound →
    store.verifiedPlaintext files' blob bound = .ok chunks.flatten
  exact : ∀ file bound content, store.readFile file blob bound = .ok content ↔
    content = chunks.flatten ∧ chunks.flatten.length ≤ bound ∧
      ∃ nonce', nonce'.length = NONCE_SIZE ∧ file = store.writeFile nonce' chunks
  plain : store.encryptionKey = none → ∀ nonce', nonce'.length = NONCE_SIZE →
    store.writeFile nonce' chunks = store.writeFile nonce chunks

theorem putChunks_exact [AuthenticatedCrypto] (store : ContentAddressedStore) {nonce : Bytes}
    (hnonce : nonce.length = NONCE_SIZE) {chunks : List Bytes} {d : Disclosure} {blob : BlobRef}
    {w w' : StoreWorld}
    (hput : (store.putChunks nonce { chunks } d).exec w = (.ok blob, w'))
    (hcollision : ∀ content, sha256 content = sha256 chunks.flatten → content = chunks.flatten) :
    store.StoredExactly nonce chunks w.files w'.files blob := by
  obtain ⟨-, -, hblob⟩ := store.putChunks_returns hput
  have hwrote := store.putChunks_stores hput
  subst hblob
  refine ⟨rfl, fun chunks' hflat => ?_, fun hnew => ?_, fun bound hbound => ?_,
    fun file bound content => ?_, fun hkey nonce' hnonce' => ?_⟩
  · rw [writeFile_eq hnonce, writeFile_eq hnonce, hflat]
  · have hnew' : sha256 chunks.flatten ∉ w.files.blobs := hnew
    simp only [hwrote.blobs_eq, blobsWith, if_neg hnew', blobOf, Dict.get?_insert_self,
      Option.map_some, writeFile_eq hnonce]
  · -- What is at the path was verified, and no other content has its digest.
    have hverify := hwrote.verify
    simp only [verify, bind_eq_ok, pure_eq_ok] at hverify
    obtain ⟨content, hcontent, -⟩ := hverify
    have hdigest : sha256 content = sha256 chunks.flatten := by
      simp only [verifiedPlaintext, bind_eq_ok, raiseIf_eq_ok, exists_const, pure_eq_ok, not_or,
        not_not] at hcontent
      obtain ⟨_, -, _, -, ⟨-, hdigest⟩, rfl⟩ := hcontent
      exact hdigest
    rw [hcollision content hdigest] at hcontent
    rw [← hcontent, verifiedPlaintext, verifiedPlaintext, min_self, min_eq_right]
    exact hbound
  · rw [readFile_eq_ok]
    constructor
    · rintro ⟨hreference, hbound, nonce', hnonce', rfl⟩
      have hsame := hcollision content (congrArg BlobRef.digest hreference).symm
      subst hsame
      exact ⟨rfl, hbound, nonce', hnonce', (writeFile_eq hnonce').symm⟩
    · rintro ⟨rfl, hbound, nonce', hnonce', rfl⟩
      exact ⟨rfl, hbound, nonce', hnonce', writeFile_eq hnonce'⟩
  · rw [writeFile_eq hnonce, writeFile_eq hnonce', envelope, envelope, hkey]

end ContentAddressedStore

/-! ### A plaintext store, and two envelopes of one content -/

section Sealed

local instance sealedCrypto : StoreCrypto where
  sha256 := smallCrypto.sha256
  encrypt _ _ _ plaintext := (plaintext, List.replicate 16 0)
  decrypt _ _ tag _ payload := if tag = List.replicate 16 0 then some payload else none

local instance sealedStream : StreamingCrypto where
  update _ _ _ _ chunk := chunk

local instance sealedLawful : AuthenticatedCrypto where
  length_encrypt _ _ _ _ := rfl
  decrypt_encrypt _ _ _ _ := rfl
  encrypt_append _ _ _ _ _ := rfl
  length_tag _ _ _ _ := rfl
  encrypt_decrypt _ _ _ _ _ _ h := by
    obtain ⟨rfl, h⟩ := Option.ite_none_right_eq_some.mp h
    cases h
    rfl

local instance sealedRules : ContentRules := smallRules

def sealedStore : ContentAddressedStore where
  policy := { (smallStore 49).policy with
    encryption := .managed "vault" "", encryption_required := nofun }
  policyDigest := ""
  encryptionKey := some ⟨"key-1", []⟩
  key_iff := by simp

lemma lock_collision (content : Bytes) (h : sha256 content = sha256 (utf8 "lock")) :
    content = utf8 "lock" := by
  by_contra hne
  revert h
  show (if content = utf8 "lock" then _ else _) ≠ _
  rw [if_neg hne]
  split_ifs <;> decide

def lockChunks : List Bytes := [utf8 "lo", utf8 "ck"]

theorem putChunks_exact_lock :
    (smallStore 49).StoredExactly (List.replicate 12 7) lockChunks {}
      (((smallStore 49).putChunks (List.replicate 12 7) { chunks := lockChunks }
        (lockDisclosure .candidate)).exec ⟨{}, none⟩).2.files
      (ContentAddressedStore.blobOf (utf8 "lock")) :=
  (smallStore 49).putChunks_exact rfl (d := lockDisclosure .candidate)
    (w := ⟨{}, none⟩)
    (Prod.ext (by decide) rfl) lock_collision

/-- A reading accepts another file than the one that was written. -/
theorem otherEnvelope_read :
    ((sealedStore.putChunks (List.replicate 12 7) { chunks := lockChunks }
        (lockDisclosure .candidate)).exec ⟨{}, none⟩).1 =
          .ok (ContentAddressedStore.blobOf (utf8 "lock")) ∧
      ¬ ∀ file, file ≠ sealedStore.writeFile (List.replicate 12 7) lockChunks →
        sealedStore.readFile file (ContentAddressedStore.blobOf (utf8 "lock")) 4 ≠
          .ok (utf8 "lock") := by
  refine ⟨by decide, fun h => ?_⟩
  exact h (sealedStore.writeFile (List.replicate 12 9) lockChunks) (by decide) (by decide)

end Sealed

end EdaGym
