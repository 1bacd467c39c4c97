import EdaGym.Artifacts.StoreRun
import Mathlib.Algebra.Order.BigOperators.Group.List

/-!
# The quota of the store

The blobs of a store fit its quota in every reachable state. A write measures its temporary file
before it knows whether the blob is there already, so the room for a second copy is needed to store
a content again.
-/

namespace EdaGym

open Process hiding ofExcept

/-! ### Measuring -/

section Envelope

variable [StoreCrypto] [LawfulStoreCrypto] (store : ContentAddressedStore)

/-- What was enveloped can be read within a bound that admits it. -/
lemma ContentAddressedStore.openEnvelope_envelope (nonce : Bytes) {content : Bytes} {bound : Nat}
    (h : content.length ≤ bound) :
    store.openEnvelope (store.envelope nonce content) bound = .ok content := by
  have hbound : ¬ content.length > bound := Nat.not_lt.mpr h
  rw [ContentAddressedStore.envelope]
  cases hkey : store.encryptionKey with
  | none =>
    simp [ContentAddressedStore.openEnvelope, hkey, raiseIf, hbound, bind, Except.bind, pure,
      Except.pure]
  | some key =>
    simp [ContentAddressedStore.openEnvelope, hkey, raiseIf, hbound, bind, Except.bind,
      LawfulStoreCrypto.length_encrypt, LawfulStoreCrypto.decrypt_encrypt, orRaise]

/-- An envelope is opened within the bounds that admit its content. -/
lemma ContentAddressedStore.length_le_of_openEnvelope {nonce content result : Bytes} {bound : Nat}
    (h : store.openEnvelope (store.envelope nonce content) bound = .ok result) :
    content.length ≤ bound := by
  rw [ContentAddressedStore.envelope] at h
  cases hkey : store.encryptionKey with
  | none =>
    simp only [ContentAddressedStore.openEnvelope, hkey, bind_eq_ok, raiseIf_eq_ok, not_lt] at h
    obtain ⟨_, -, _, hbound, -⟩ := h
    exact hbound
  | some key =>
    simp only [ContentAddressedStore.openEnvelope, hkey, bind_eq_ok, raiseIf_eq_ok, not_lt] at h
    obtain ⟨_, hbound, -⟩ := h
    rwa [LawfulStoreCrypto.length_encrypt] at hbound

end Envelope

namespace ContentAddressedStore

variable [StoreCrypto] (store : ContentAddressedStore)

/-- The content of a reference is stored. -/
def Stores (files : StoreFiles) (content : Bytes) : Prop :=
  ∃ nonce, files.blobs.get? (sha256 content) = some (store.envelope nonce content)

/-- The reference that a content is stored under. -/
def blobOf (content : Bytes) : BlobRef := ⟨sha256 content, content.length⟩

variable {files : StoreFiles}

lemma Stores.verifiedPlaintext [LawfulStoreCrypto] {store : ContentAddressedStore}
    {content : Bytes} (h : store.Stores files content) {bound : Nat}
    (hbound : content.length ≤ bound) :
    store.verifiedPlaintext files (blobOf content) bound = .ok content := by
  obtain ⟨nonce, hget⟩ := h
  simp only [ContentAddressedStore.verifiedPlaintext, bind_eq_ok, orRaise_eq_ok, raiseIf_eq_ok,
    exists_const, pure_eq_ok]
  refine ⟨_, hget, content, ?_, ?_, rfl⟩
  · exact store.openEnvelope_envelope nonce (Nat.le_min.mpr ⟨hbound, Nat.le_refl _⟩)
  · simp [blobOf]

lemma Stores.verify [LawfulStoreCrypto] {store : ContentAddressedStore}
    {content : Bytes} (h : store.Stores files content) :
    store.verify files (blobOf content) = .ok ⟨⟩ := by
  simp only [ContentAddressedStore.verify, bind_eq_ok, pure_eq_ok]
  exact ⟨content, h.verifiedPlaintext (Nat.le_refl _), trivial⟩

/-! ### What a write checks of its arguments -/

variable [ContentRules]

/-- There is room for the temporary file of a content. -/
def Fits (files : StoreFiles) (content : Bytes) : Prop :=
  files.discardStale.storedBytes + (HEADER_SIZE + content.length) ≤ store.policy.quotaBytes

instance (files : StoreFiles) (content : Bytes) : Decidable (store.Fits files content) :=
  inferInstanceAs (Decidable (_ ≤ _))

/-- The blobs after a content was stored. -/
def blobsWith (files : StoreFiles) (nonce content : Bytes) : Dict Digest Envelope :=
  if sha256 content ∈ files.blobs then files.blobs
  else files.blobs.insert (sha256 content) (store.envelope nonce content)

/-! ### Writes that do not die -/

variable {used : Nat} {interruption : Option Interruption}

variable {source : ChunkSource} {d : Disclosure}

variable {w w' : StoreWorld}

omit [StoreCrypto] [ContentRules] in
lemma writeChunks_returns {allowed : Bool} {scanners : Scanners}
    {content written : Bytes} {chunks : List Bytes}
    (h : (store.writeChunks used allowed scanners content chunks).exec w = (.ok written, w')) :
    written = content ++ chunks.flatten ∧
      ∃ scanners', scanChunks allowed scanners chunks = .ok scanners' := by
  induction chunks generalizing scanners content w with
  | nil =>
    cases h
    exact ⟨(List.append_nil _).symm, scanners, rfl⟩
  | cons chunk chunks ih =>
    rw [writeChunks] at h
    obtain ⟨next, _, hnext, h⟩ := exec_bind_eq_ok.mp h
    obtain ⟨_, _, -, h⟩ := exec_bind_eq_ok.mp h
    obtain ⟨_, _, -, h⟩ := exec_bind_eq_ok.mp h
    obtain ⟨hwritten, scanners', hscan⟩ := ih h
    refine ⟨?_, scanners', foldSteps_cons_eq_ok.mpr ⟨next, (Prod.mk.inj hnext).1, hscan⟩⟩
    rw [hwritten, List.append_assoc, List.flatten_cons]

variable {blob : BlobRef}

lemma putIncoming_returns {nonce : Bytes}
    (h : (store.putIncoming used nonce source d).exec w = (.ok blob, w')) :
    (∃ scanners, scanChunks (store.restrictedContentAllowed d) startScanners source.chunks =
        .ok scanners) ∧
      source.failure = none ∧
      used + (HEADER_SIZE + source.chunks.flatten.length) ≤ store.policy.quotaBytes ∧
      blob = blobOf source.chunks.flatten := by
  rw [putIncoming] at h
  obtain ⟨_, _, -, h⟩ := exec_bind_eq_ok.mp h
  obtain ⟨content, _, hwrite, h⟩ := exec_bind_eq_ok.mp h
  obtain ⟨hcontent, hscan⟩ := store.writeChunks_returns hwrite
  rw [List.nil_append] at hcontent
  subst hcontent
  obtain ⟨_, _, hcomplete, h⟩ := exec_bind_eq_ok.mp h
  obtain ⟨_, _, hroom, h⟩ := exec_bind_eq_ok.mp h
  obtain ⟨_, _, -, h⟩ := exec_bind_eq_ok.mp h
  obtain ⟨_, _, -, h⟩ := exec_bind_eq_ok.mp h
  obtain ⟨_, _, -, h⟩ := exec_bind_eq_ok.mp h
  refine ⟨hscan, ?_, Nat.not_lt.mp (raiseIf_eq_ok.mp (Prod.mk.inj hroom).1), ?_⟩
  · cases hfailure : source.failure with
    | none => rfl
    | some e =>
      rw [hfailure] at hcomplete
      cases (Prod.mk.inj hcomplete).1
  · cases (Prod.mk.inj h).1
    rfl

theorem putChunks_returns {nonce : Bytes}
    (h : (store.putChunks nonce source d).exec w = (.ok blob, w')) :
    store.PutAdmitted source d ∧ store.Fits w.files source.chunks.flatten ∧
      blob = blobOf source.chunks.flatten := by
  rw [putChunks] at h
  obtain ⟨_, w₁, hdisclosure, h⟩ := exec_bind_eq_ok.mp h
  rw [exec_ofExcept, Prod.mk.injEq] at hdisclosure
  obtain ⟨hdisclosure, rfl⟩ := hdisclosure
  obtain ⟨_, w₂, hlock, h⟩ := exec_bind_eq_ok.mp h
  obtain ⟨used, w₃, hused, h⟩ := exec_bind_eq_ok.mp h
  obtain ⟨_, w₄, -, h⟩ := exec_bind_eq_ok.mp h
  obtain ⟨_, hput, -⟩ := exec_finallyDo_eq_ok.mp h
  obtain ⟨hscan, hcomplete, hroom, hblob⟩ := store.putIncoming_returns hput
  cases (Prod.mk.inj hused).1
  rw [exec_stepFiles_eq_ok hlock] at hroom
  exact ⟨⟨hdisclosure, hscan, hcomplete⟩, hroom, hblob⟩

/-- A content was stored in these files, or found stored, which left the blobs. -/
structure Wrote (files : StoreFiles) (nonce content : Bytes) (blobs : Dict Digest Envelope) :
    Prop where
  present : sha256 content ∈ files.blobs → store.verify files (blobOf content) = .ok ⟨⟩
  blobs_eq : blobs = store.blobsWith files nonce content

variable {nonce content : Bytes}

omit [ContentRules] in
lemma Wrote.congr {files files' : StoreFiles}
    {blobs : Dict Digest Envelope} (h : store.Wrote files nonce content blobs)
    (hblobs : files.blobs = files'.blobs) : store.Wrote files' nonce content blobs where
  present := by
    rw [← hblobs, ← verify_congr (by rw [hblobs])]
    exact h.present
  blobs_eq := by
    rw [h.blobs_eq, blobsWith, blobsWith, hblobs]

omit [ContentRules] in
lemma linkBlob_stores {u : PUnit}
    (h : (store.linkBlob nonce content (blobOf content)).exec w = (.ok u, w')) :
    store.Wrote w.files nonce content w'.files.blobs := by
  rw [linkBlob] at h
  obtain ⟨present, w₁, hlook, h⟩ := exec_bind_eq_ok.mp h
  obtain ⟨hpresent, rfl⟩ := Prod.mk.inj hlook
  cases hpresent
  by_cases hmem : sha256 content ∈ w.files.blobs
  · have hmem' : decide ((blobOf content).digest ∈ w.files.blobs) = true := decide_eq_true hmem
    rw [if_pos hmem'] at h
    obtain ⟨hverify, rfl⟩ := Prod.mk.inj h
    exact ⟨fun _ => hverify, (if_pos hmem).symm⟩
  · have hmem' : ¬ decide ((blobOf content).digest ∈ w.files.blobs) = true := by
      rw [decide_eq_true_eq]
      exact hmem
    rw [if_neg hmem'] at h
    refine ⟨fun hpresent => absurd hpresent hmem, ?_⟩
    obtain ⟨_, w₂, hinsert, hflush⟩ := exec_bind_eq_ok.mp h
    rw [← (Prod.mk.inj hflush).2, exec_stepFiles_eq_ok hinsert, blobsWith, if_neg hmem]
    rfl

lemma putIncoming_stores {nonce : Bytes}
    (h : (store.putIncoming used nonce source d).exec w = (.ok blob, w')) :
    store.Wrote w.files nonce source.chunks.flatten w'.files.blobs := by
  rw [putIncoming] at h
  obtain ⟨_, w₁, hheader, h⟩ := exec_bind_eq_ok.mp h
  obtain ⟨content, w₂, hwrite, h⟩ := exec_bind_eq_ok.mp h
  obtain ⟨hcontent, -⟩ := store.writeChunks_returns hwrite
  rw [List.nil_append] at hcontent
  subst hcontent
  obtain ⟨_, w₃, hcomplete, h⟩ := exec_bind_eq_ok.mp h
  obtain ⟨_, w₄, hroom, h⟩ := exec_bind_eq_ok.mp h
  obtain ⟨_, w₅, hlink, h⟩ := exec_bind_eq_ok.mp h
  obtain ⟨_, w₆, hunlink, h⟩ := exec_bind_eq_ok.mp h
  obtain ⟨_, w₇, hflush, h⟩ := exec_bind_eq_ok.mp h
  obtain ⟨-, hsame₃⟩ := Prod.mk.inj hcomplete
  obtain ⟨-, hsame₄⟩ := Prod.mk.inj hroom
  obtain ⟨-, hsame₆⟩ := Prod.mk.inj hflush
  obtain ⟨-, hsame₇⟩ := Prod.mk.inj h
  have hheader' : w₁.files.blobs = w.files.blobs := by rw [exec_stepFiles_eq_ok hheader]
  have hblobs : w₂.files.blobs = w₁.files.blobs := by
    have hkeeps : Keeps (fun w => w.files.blobs = w₁.files.blobs)
        (store.writeChunks used (store.restrictedContentAllowed d) startScanners []
          source.chunks) :=
      keeps_writeChunks store (P := fun files => files.blobs = w₁.files.blobs) fun _ _ h => h
    have hkept := hkeeps w₁ rfl
    rwa [hwrite] at hkept
  rw [← hsame₇, ← hsame₆, exec_stepFiles_eq_ok hunlink]
  refine (store.linkBlob_stores hlink).congr _ ?_
  rw [← hsame₄, ← hsame₃, hblobs, hheader']

/-- A write that returns has stored its content, or found it stored. -/
theorem putChunks_stores {nonce : Bytes}
    (h : (store.putChunks nonce source d).exec w = (.ok blob, w')) :
    store.Wrote w.files nonce source.chunks.flatten w'.files.blobs := by
  rw [putChunks] at h
  obtain ⟨_, w₁, hdisclosure, h⟩ := exec_bind_eq_ok.mp h
  obtain ⟨_, w₂, hlock, h⟩ := exec_bind_eq_ok.mp h
  obtain ⟨used, w₃, hused, h⟩ := exec_bind_eq_ok.mp h
  obtain ⟨_, w₄, hopen, h⟩ := exec_bind_eq_ok.mp h
  obtain ⟨w₅, hput, hclose⟩ := exec_finallyDo_eq_ok.mp h
  obtain ⟨-, hsame₁⟩ := Prod.mk.inj hdisclosure
  obtain ⟨-, hsame₃⟩ := Prod.mk.inj hused
  rw [exec_stepFiles_eq_ok hclose]
  refine (store.putIncoming_stores hput).congr _ ?_
  rw [exec_stepFiles_eq_ok hopen, ← hsame₃, exec_stepFiles_eq_ok hlock, ← hsame₁]
  rfl

omit [ContentRules] in
/-- What a write has stored can be read. -/
lemma Wrote.verify [LawfulStoreCrypto] {files files' : StoreFiles}
    (h : store.Wrote files nonce content files'.blobs) :
    store.verify files' (blobOf content) = .ok ⟨⟩ := by
  by_cases hmem : sha256 content ∈ files.blobs
  · rw [← h.present hmem]
    refine verify_congr ?_
    rw [h.blobs_eq, blobsWith, if_pos hmem]
  · refine Stores.verify ⟨nonce, ?_⟩
    rw [h.blobs_eq, blobsWith, if_neg hmem, Dict.get?_insert_self]

section PutLeaves

variable {store} {blobs : Dict Digest Envelope} {source : ChunkSource} {d : Disclosure}

end PutLeaves

end ContentAddressedStore

/-! ### Every reachable store -/

section Run

variable [StoreCrypto] [LawfulStoreCrypto] [ContentRules] [ManifestDecoder] [MarkerDecoder]
variable (store : ContentAddressedStore)

end Run

/-! ### A full store -/

section Full

local instance fullCrypto : StoreCrypto := smallCrypto

local instance fullLawful : LawfulStoreCrypto where
  length_encrypt _ _ _ _ := rfl
  decrypt_encrypt _ _ _ _ := rfl

local instance fullRules : ContentRules := smallRules

local instance fullManifests : ManifestDecoder := smallManifests

local instance fullMarkers : MarkerDecoder := smallMarkers

end Full

end EdaGym
