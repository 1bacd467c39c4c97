import EdaGym.Artifacts.CollectionSafety
import EdaGym.Artifacts.Quota

/-!
# What a store keeps through crashes

Between two collections a store only gains files, whatever its operations do and wherever they
die: a blob that can be read, a manifest that can be loaded and a checkpoint that is bound stay so.
-/

namespace EdaGym

open Process hiding ofExcept

section Durable

variable [StoreCrypto] [ContentRules] [ManifestDecoder] [MarkerDecoder]
variable {store : ContentAddressedStore} {files files' : StoreFiles}

/-- The files after later operations, none of which collects; each may die. -/
inductive StoreGrown (store : ContentAddressedStore) (files : StoreFiles) : StoreFiles → Prop
  | refl : StoreGrown store files files
  | step {files' : StoreFiles} (operation : StoreOperation) (interruption : Option Interruption) :
      StoreGrown store files files' → ¬ operation.Collects →
        StoreGrown store files ((operation.run store).exec ⟨files', interruption⟩).2.files

theorem StoreGrown.invariant {I : StoreFiles → Prop} (h : StoreGrown store files files')
    (hfiles : I files) (hkeeps : ∀ operation : StoreOperation, ¬ operation.Collects →
      Keeps (fun w => I w.files) (operation.run store)) : I files' := by
  induction h with
  | refl => exact hfiles
  | step operation interruption _ hcollects ih => exact hkeeps operation hcollects _ ih

namespace ContentAddressedStore

/-! ### Blobs -/

/-- Every blob file is the sealed envelope of a content that has its digest. -/
def Intact (store : ContentAddressedStore) (blobs : Dict Digest Envelope) : Prop :=
  ∀ digest e, blobs.get? digest = some e →
    ∃ nonce content, sha256 content = digest ∧ e = store.envelope nonce content

lemma keeps_intact (operation : StoreOperation) :
    Keeps (fun w => store.Intact w.files.blobs) (operation.run store) := by
  refine StoreOperation.keeps (P := fun blobs _ => store.Intact blobs) ?_ ?_ ?_ ?_
  · exact fun _ _ h => h
  · intro blobs _ nonce content h _ digest e hget
    rw [Dict.get?_insert] at hget
    split_ifs at hget with hdigest
    · cases hget
      exact ⟨nonce, content, hdigest.symm, rfl⟩
    · exact h digest e hget
  · exact fun _ _ _ _ h _ _ => h
  · refine fun _ blobs _ h => ⟨fun removed digest e hget => ?_, fun _ => h⟩
    rw [Dict.get?_erase] at hget
    split_ifs at hget
    exact h digest e hget

/-- In every run each blob can be read, as the one content that its name is the digest of, and
exactly by references that have its length, within bounds that admit it. -/
theorem blob_readable [LawfulStoreCrypto] {P : StoreOperation → Prop} {digest : Digest}
    (h : StoreReachable store P files) (hdigest : digest ∈ files.blobs) :
    ∃ content, sha256 content = digest ∧ ∀ sizeBytes bound result,
      store.verifiedPlaintext files ⟨digest, sizeBytes⟩ bound = .ok result ↔
        result = content ∧ sizeBytes = content.length ∧ content.length ≤ bound := by
  have hintact : store.Intact files.blobs :=
    h.invariant (I := fun files => store.Intact files.blobs) (fun _ _ hget => by cases hget)
      fun operation _ => keeps_intact operation
  obtain ⟨e, hget⟩ := Dict.mem_iff.mp hdigest
  obtain ⟨nonce, content, rfl, rfl⟩ := hintact _ _ hget
  have hstores : store.Stores files content := ⟨nonce, hget⟩
  refine ⟨content, rfl, fun sizeBytes bound result => ⟨fun hread => ?_, ?_⟩⟩
  · simp only [verifiedPlaintext, bind_eq_ok, orRaise_eq_ok, raiseIf_eq_ok, exists_const,
      pure_eq_ok, not_or, not_not, hget, Option.some.injEq] at hread
    obtain ⟨_, rfl, read, hopen, ⟨hsize, -⟩, rfl⟩ := hread
    have hbound : content.length ≤ min bound sizeBytes := store.length_le_of_openEnvelope hopen
    rw [store.openEnvelope_envelope nonce hbound] at hopen
    cases hopen
    exact ⟨rfl, hsize.symm, hbound.trans (Nat.min_le_left _ _)⟩
  · rintro ⟨rfl, rfl, hbound⟩
    exact hstores.verifiedPlaintext hbound

end ContentAddressedStore

/-! ### What stays -/

lemma StoreReachable.grown
    (h : StoreReachable store (fun _ => True) files) (hgrown : StoreGrown store files files') :
    StoreReachable store (fun _ => True) files' := by
  induction hgrown with
  | refl => exact h
  | step operation interruption _ _ ih => exact .step operation interruption ih trivial

namespace StoreGrown

lemma blob_kept {digest : Digest} {e : Envelope} (h : StoreGrown store files files')
    (hget : files.blobs.get? digest = some e) : files'.blobs.get? digest = some e := by
  refine h.invariant (I := fun files => files.blobs.get? digest = some e) hget
    fun operation hcollects => ?_
  refine StoreOperation.keeps (P := fun blobs _ => blobs.get? digest = some e) ?_ ?_ ?_ ?_
  · exact fun _ _ h => h
  · intro blobs _ nonce content h hnew
    have hne : digest ≠ sha256 content := fun heq => hnew (heq ▸ Dict.mem_of_get? h)
    rw [Dict.get?_insert_of_ne _ _ hne, h]
  · exact fun _ _ _ _ h _ _ => h
  · exact fun h => absurd h hcollects

lemma marker_kept {name : String} {content : Bytes} (h : StoreGrown store files files')
    (hname : isPublishName name = false) (hget : files.markers.get? name = some content) :
    files'.markers.get? name = some content := by
  refine h.invariant (I := fun files => files.markers.get? name = some content) hget
    fun operation hcollects => ?_
  refine StoreOperation.keeps (P := fun _ markers => markers.get? name = some content) ?_ ?_ ?_ ?_
  · intro _ markers h
    rw [Dict.get?_filterKeys, if_pos (by rw [hname]; rfl), h]
  · exact fun _ _ _ _ h _ => h
  · intro _ markers checkpointId _ h _ hnew
    have hne : name ≠ markerName checkpointId := fun heq => hnew (heq ▸ Dict.mem_of_get? h)
    rw [Dict.get?_insert_of_ne _ _ hne, h]
  · exact fun h => absurd h hcollects

lemma plaintext_kept {reference : BlobRef} {bound : Nat} {content : Bytes}
    (h : StoreGrown store files files')
    (hread : store.verifiedPlaintext files reference bound = .ok content) :
    store.verifiedPlaintext files' reference bound = .ok content := by
  obtain ⟨e, hget⟩ := Dict.mem_iff.mp (ContentAddressedStore.mem_of_plaintext hread)
  rw [ContentAddressedStore.verifiedPlaintext_congr ((h.blob_kept hget).trans hget.symm), hread]

lemma verify_kept {blob : BlobRef} (h : StoreGrown store files files')
    (hverify : store.verify files blob = .ok ⟨⟩) : store.verify files' blob = .ok ⟨⟩ := by
  simp only [ContentAddressedStore.verify, bind_eq_ok] at hverify ⊢
  obtain ⟨content, hread, -⟩ := hverify
  exact ⟨content, h.plaintext_kept hread, rfl⟩

lemma manifest_kept {blob : BlobRef} {expected : Option Digest} {m : ArtifactManifest}
    (h : StoreGrown store files files')
    (hload : store.loadManifestBlob files blob expected = .ok m) :
    store.loadManifestBlob files' blob expected = .ok m := by
  rw [ContentAddressedStore.loadManifestBlob_eq_ok] at hload ⊢
  obtain ⟨hread, hm, hdigest, hverify⟩ := hload
  exact ⟨h.plaintext_kept hread, hm, hdigest, fun entry hentry =>
    h.verify_kept (hverify entry hentry)⟩

end StoreGrown

namespace ContentAddressedStore

/-! ### Manifests -/

variable {committed : CommittedManifest}

omit [ManifestDecoder] [MarkerDecoder] in
/-- A put that returns names the canonical bytes, which can be read. -/
lemma putManifest_returns [LawfulStoreCrypto] {nonce : Bytes} {m : ArtifactManifest}
    {w w' : StoreWorld} (h : (store.putManifest nonce m).exec w = (.ok committed, w')) :
    committed = ⟨m.digest, blobOf m.bytes⟩ ∧ store.verify w'.files (blobOf m.bytes) = .ok ⟨⟩ := by
  rw [putManifest] at h
  obtain ⟨blob, w₁, hwrite, hreturn⟩ := exec_bind_eq_ok.mp h
  obtain ⟨hcommitted, rfl⟩ := Prod.mk.inj hreturn
  cases hcommitted
  obtain ⟨-, -, hblob⟩ := store.putChunks_returns hwrite
  have hflat : [m.bytes].flatten = m.bytes := List.append_nil _
  have hverify := (store.putChunks_stores hwrite).verify
  rw [hflat] at hblob hverify
  exact ⟨by rw [hblob], hverify⟩

/-- A manifest that was put, with its entries stored, is read back in every later state exactly
when its canonical bytes are within the bound of readings, which putting it does not ask for. -/
theorem manifest_durable [LawfulStoreCrypto] {nonce : Bytes} {m : ArtifactManifest}
    {interruption : Option Interruption} {w : StoreWorld}
    (hreachable : StoreReachable store (fun _ => True) files)
    (hput : (store.putManifest nonce m).exec ⟨files, interruption⟩ = (.ok committed, w))
    (hdecode : validateManifest m.bytes = some m)
    (hdistinct : ∀ content, sha256 content = sha256 m.bytes → content = m.bytes)
    (hentries : ∀ entry ∈ m.entries, store.verify w.files entry.blob = .ok ⟨⟩)
    (hgrown : StoreGrown store w.files files') :
    store.loadCommittedManifest files' committed = .ok m ↔
      m.bytes.length ≤ MANIFEST_READ_BOUND := by
  have hafter : StoreReachable store (fun _ => True) w.files := by
    have hrun : ((StoreOperation.putManifest nonce m).run store).exec ⟨files, interruption⟩ =
        (.ok ⟨⟩, w) := exec_bind_ok hput
    have hstep := hreachable.step (.putManifest nonce m) interruption trivial
    rwa [hrun] at hstep
  obtain ⟨rfl, hverify⟩ := putManifest_returns hput
  -- the blob holds these very bytes
  have hmem : sha256 m.bytes ∈ files'.blobs := by
    have hlater := hgrown.verify_kept hverify
    simp only [verify, bind_eq_ok] at hlater
    obtain ⟨content, hread, -⟩ := hlater
    exact mem_of_plaintext hread
  obtain ⟨content, hsha, hreads⟩ := blob_readable (hafter.grown hgrown) hmem
  cases hdistinct content hsha
  rw [loadCommittedManifest, loadManifestBlob_eq_ok, blobOf, hreads]
  constructor
  · rintro ⟨⟨-, -, hbound⟩, -⟩
    exact hbound
  · intro hbound
    exact ⟨⟨rfl, rfl, hbound⟩, hdecode, fun d hd => Option.some.inj hd,
      fun entry hentry => hgrown.verify_kept (hentries entry hentry)⟩

/-! ### Checkpoints -/

section

omit [StoreCrypto] [ContentRules] [ManifestDecoder] [MarkerDecoder]

lemma linkMarker_returns {target : String} {content : Bytes} {w w' : StoreWorld} {u : PUnit}
    (h : (linkMarker target content).exec w = (.ok u, w')) :
    w'.files.markers.get? target = some content ∧ w'.files.blobs = w.files.blobs := by
  rw [linkMarker] at h
  obtain ⟨present, w₁, hlook, h⟩ := exec_bind_eq_ok.mp h
  obtain ⟨hpresent, rfl⟩ := Prod.mk.inj hlook
  split at h
  · obtain ⟨hread, rfl⟩ := Prod.mk.inj h
    simp only [readSecureFile, bind_eq_ok, orRaise_eq_ok, raiseIf_eq_ok, exists_const, pure_eq_ok,
      not_not] at hread
    obtain ⟨_, ⟨existing, hget, -, rfl⟩, rfl⟩ := hread
    exact ⟨hget, rfl⟩
  · rw [exec_stepFiles_eq_ok h]
    exact ⟨Dict.get?_insert_self _ _ _, rfl⟩

lemma publishBytesNoReplace_returns {target : String} {content : Bytes} {w w' : StoreWorld}
    {u : PUnit} (h : (publishBytesNoReplace target content).exec w = (.ok u, w')) :
    w'.files.markers.get? target = some content ∧ w'.files.blobs = w.files.blobs := by
  obtain ⟨_, w₁, htemporary, h⟩ := exec_bind_eq_ok.mp h
  obtain ⟨w₂, h, hclose⟩ := exec_finallyDo_eq_ok.mp h
  obtain ⟨_, w₃, hwrite, h⟩ := exec_bind_eq_ok.mp h
  obtain ⟨_, w₄, hlink, hflush⟩ := exec_bind_eq_ok.mp h
  obtain ⟨hget, hblobs⟩ := linkMarker_returns hlink
  rw [exec_stepFiles_eq_ok hclose, ← (Prod.mk.inj hflush).2]
  refine ⟨hget, hblobs.trans ?_⟩
  rw [exec_stepFiles_eq_ok hwrite, exec_stepFiles_eq_ok htemporary]

end

omit [ContentRules] [MarkerDecoder] in
/-- A commit that returns has bound the identifier to a checkpoint manifest that loads. -/
lemma commitCheckpoint_returns {checkpointId : Identifier}
    {kind : CheckpointKind} {driverDigest : Option Digest} {marker : CheckpointMarker}
    {w w' : StoreWorld}
    (h : (store.commitCheckpoint checkpointId committed kind driverDigest).exec w =
      (.ok marker, w')) :
    CheckpointMarker.validate kind checkpointId committed.semanticDigest committed.blob
        driverDigest = .ok marker ∧
      w'.files.markers.get? (markerName checkpointId) = some marker.encoded ∧
      ∃ m, store.loadCommittedManifest w'.files committed = .ok m ∧
        m.artifactClass = .checkpoint := by
  obtain ⟨_, w₁, -, h⟩ := exec_bind_eq_ok.mp h
  obtain ⟨m, w₂, hlook, h⟩ := exec_bind_eq_ok.mp h
  obtain ⟨_, w₃, hcheck, h⟩ := exec_bind_eq_ok.mp h
  obtain ⟨marker', w₄, hvalidate, h⟩ := exec_bind_eq_ok.mp h
  obtain ⟨_, w₅, hpublish, hreturn⟩ := exec_bind_eq_ok.mp h
  obtain ⟨hload, hsame₂⟩ := Prod.mk.inj hlook
  obtain ⟨hclass, hsame₃⟩ := Prod.mk.inj hcheck
  obtain ⟨hvalid, hsame₄⟩ := Prod.mk.inj hvalidate
  obtain ⟨hmarker, hsame₅⟩ := Prod.mk.inj hreturn
  cases hmarker
  subst hsame₂ hsame₃ hsame₄ hsame₅
  obtain ⟨hget, hblobs⟩ := publishBytesNoReplace_returns hpublish
  obtain ⟨-, hid, -⟩ := CheckpointMarker.validate_eq_ok.mp hvalid
  rw [hid] at hget
  refine ⟨hvalid, hget, m, loadManifestBlob_mono hload ?_ fun _ _ => ?_, ?_⟩
  · rw [hblobs]
  · rw [hblobs]
  · simpa using raiseIf_eq_ok.mp hclass

/-- No commit under the identifier returns another marker. -/
def Binds (store : ContentAddressedStore) (files : StoreFiles) (checkpointId : Identifier)
    (marker : CheckpointMarker) : Prop :=
  ∀ committed kind driverDigest interruption marker' w,
    (store.commitCheckpoint checkpointId committed kind driverDigest).exec
        ⟨files, interruption⟩ = (.ok marker', w) → marker'.encoded = marker.encoded

lemma commitCheckpoint_durable {checkpointId : Identifier}
    {kind : CheckpointKind} {driverDigest : Option Digest} {marker : CheckpointMarker}
    {w₀ w : StoreWorld}
    (hcommit : (store.commitCheckpoint checkpointId committed kind driverDigest).exec w₀ =
      (.ok marker, w))
    (hname : isPublishName checkpointId = false)
    (hdecode : validateMarkerJson marker.encoded = some marker)
    (hbound : marker.encoded.length ≤ MARKER_READ_BOUND) (hgrown : StoreGrown store w.files files) :
    (∃ m, (store.loadCheckpoint checkpointId kind driverDigest).exec ⟨files, none⟩ =
        (.ok (marker, m), ⟨files.discardStale, none⟩) ∧
      store.loadCommittedManifest w.files committed = .ok m) ∧
    store.Binds files checkpointId marker := by
  obtain ⟨hvalid, hget, m, hload, hclass⟩ := commitCheckpoint_returns hcommit
  obtain ⟨hkind, hid, hdigest, hblob, hdriver⟩ := CheckpointMarker.validate_eq_ok.mp hvalid
  have hmarkerName : isPublishName (markerName checkpointId) = false := by
    rw [isPublishName_markerName, hname]
  have hlater := hgrown.marker_kept hmarkerName hget
  have hdiscarded : files.discardStale.markers.get? (markerName checkpointId) =
      some marker.encoded := by
    rw [StoreFiles.discardStale, Dict.get?_filterKeys, if_pos (by rw [hmarkerName]; rfl), hlater]
  refine ⟨⟨m, ?_, hload⟩, fun committed' kind' driverDigest' interruption marker' w' hagain => ?_⟩
  · have hread : loadCheckpointMarker files.discardStale checkpointId = .ok marker := by
      simp only [loadCheckpointMarker, readSecureFile, hdiscarded, bind_eq_ok, orRaise_eq_ok,
        raiseIf_eq_ok, exists_const, pure_eq_ok, not_lt, not_not]
      exact ⟨_, ⟨_, rfl, hbound, rfl⟩, marker, hdecode, rfl, hid, rfl⟩
    cases hid
    cases hkind
    cases hdriver
    refine exec_loadCheckpoint rfl hread ?_ hclass
    rw [hblob, hdigest]
    exact loadManifestBlob_mono (hgrown.manifest_kept hload) rfl fun _ _ => rfl
  · obtain ⟨-, hget', -⟩ := commitCheckpoint_returns hagain
    have hrun : ((StoreOperation.commitCheckpoint checkpointId committed' kind'
        driverDigest').run store).exec ⟨files, interruption⟩ = (.ok ⟨⟩, w') := exec_bind_ok hagain
    have hstep := hgrown.step (.commitCheckpoint checkpointId committed' kind' driverDigest')
      interruption fun h => h
    rw [hrun] at hstep
    exact Option.some.inj (hget'.symm.trans (hstep.marker_kept hmarkerName hget))

/-- A checkpoint that was committed loads in every later state as what it was committed to, and no
later commit binds its identifier to anything else. -/
theorem checkpoint_durable {checkpointId : Identifier} {marker : CheckpointMarker}
    {w₀ w : StoreWorld} (hname : isPublishName checkpointId = false)
    (hdecode : validateMarkerJson marker.encoded = some marker)
    (hbound : marker.encoded.length ≤ MARKER_READ_BOUND) (hgrown : StoreGrown store w.files files) :
    ((store.commitFilesystemCheckpoint checkpointId committed).exec w₀ = (.ok marker, w) →
      (∃ m, (store.loadFilesystemCheckpoint checkpointId).exec ⟨files, none⟩ =
          (.ok (marker, m), ⟨files.discardStale, none⟩) ∧
        store.loadCommittedManifest w.files committed = .ok m) ∧
      store.Binds files checkpointId marker) ∧
    ∀ driverDigest, (store.commitApplicationCheckpoint checkpointId committed driverDigest).exec
        w₀ = (.ok marker, w) →
      (∃ m, (store.loadApplicationCheckpoint checkpointId driverDigest).exec ⟨files, none⟩ =
          (.ok (marker, m), ⟨files.discardStale, none⟩) ∧
        store.loadCommittedManifest w.files committed = .ok m) ∧
      store.Binds files checkpointId marker :=
  ⟨fun hcommit => commitCheckpoint_durable hcommit hname hdecode hbound hgrown,
    fun _ hcommit => commitCheckpoint_durable hcommit hname hdecode hbound hgrown⟩

end ContentAddressedStore

end Durable

section Small

local instance durableCrypto : StoreCrypto := smallCrypto

local instance durableLawful : LawfulStoreCrypto := fullLawful

local instance durableRules : ContentRules := smallRules

local instance durableManifests : ManifestDecoder := smallManifests

local instance durableMarkers : MarkerDecoder := smallMarkers

theorem ContentAddressedStore.blob_readable_lock :
    ∃ content, sha256 content = lockBlob.digest ∧
      collectionStore.verifiedPlaintext (checkpointFiles "lock-1")
        ⟨lockBlob.digest, content.length⟩ content.length = .ok content := by
  obtain ⟨content, hdigest, hreads⟩ :=
    ContentAddressedStore.blob_readable checkpointFiles_reachable
      (show lockBlob.digest ∈ (checkpointFiles "lock-1").blobs by decide +kernel)
  exact ⟨content, hdigest, (hreads _ _ _).mpr ⟨rfl, rfl, le_rfl⟩⟩

lemma lockManifest_distinct (content : Bytes)
    (h : sha256 content = sha256 lockManifest.bytes) : content = lockManifest.bytes := by
  by_contra hne
  have hsha : sha256 lockManifest.bytes = lockCommitted.blob.digest := by decide +kernel
  rw [hsha] at h
  simp only [sha256, StoreCrypto.sha256, if_neg hne] at h
  split_ifs at h
  all_goals exact absurd h (by decide +kernel)

/-- The files after a later put that died in the middle. -/
def laterFiles (files : StoreFiles) : StoreFiles :=
  (((StoreOperation.putChunks [] { chunks := [utf8 "late"] } (lockDisclosure .checkpoint)).run
    collectionStore).exec ⟨files, some (.dies 4)⟩).2.files

lemma laterFiles_grown (files : StoreFiles) : StoreGrown collectionStore files (laterFiles files) :=
  .step _ _ .refl fun h => h

theorem ContentAddressedStore.manifest_durable_lock :
    ∃ committed w, (collectionStore.putManifest [] lockManifest).exec ⟨lockFiles, none⟩ =
        (.ok committed, w) ∧
      collectionStore.loadCommittedManifest (laterFiles w.files) committed = .ok lockManifest := by
  obtain ⟨committed, hok⟩ := Except.exists_of_isOk
    (show ((collectionStore.putManifest [] lockManifest).exec ⟨lockFiles, none⟩).1.isOk = true by
      decide +kernel)
  obtain ⟨w, hput⟩ := exists_exec_eq hok
  have hreachable : StoreReachable collectionStore (fun _ => True) lockFiles :=
    reachable_filesAfter fun _ _ => trivial
  have hentries : ∀ entry ∈ lockManifest.entries,
      collectionStore.verify w.files entry.blob = .ok ⟨⟩ := by
    intro entry hentry
    have hw : w = ((collectionStore.putManifest [] lockManifest).exec ⟨lockFiles, none⟩).2 := by
      rw [hput]
    rw [List.mem_singleton.mp hentry, hw]
    decide +kernel
  have hsize : lockManifest.bytes.length ≤ MANIFEST_READ_BOUND := by decide +kernel
  exact ⟨committed, w, hput, (ContentAddressedStore.manifest_durable hreachable hput
    (if_pos rfl) lockManifest_distinct hentries (laterFiles_grown _)).mpr hsize⟩

theorem ContentAddressedStore.checkpoint_durable_lock :
    ∃ w m, (collectionStore.commitFilesystemCheckpoint "lock-1" lockCommitted).exec
        ⟨checkpointFiles "lock-1", none⟩ = (.ok (lockMarker "lock-1" (by decide)), w) ∧
      ((collectionStore.loadFilesystemCheckpoint "lock-1").exec ⟨laterFiles w.files, none⟩).1 =
        .ok (lockMarker "lock-1" (by decide), m) := by
  have hok : ((collectionStore.commitFilesystemCheckpoint "lock-1" lockCommitted).exec
      ⟨checkpointFiles "lock-1", none⟩).1 = .ok (lockMarker "lock-1" (by decide)) := by
    decide +kernel
  obtain ⟨w, hcommit⟩ := exists_exec_eq hok
  obtain ⟨⟨m, hload, -⟩, -⟩ := (ContentAddressedStore.checkpoint_durable (by decide)
    (by decide +kernel) (by decide +kernel) (laterFiles_grown w.files)).1 hcommit
  exact ⟨w, m, hcommit, congrArg Prod.fst hload⟩

end Small

end EdaGym
