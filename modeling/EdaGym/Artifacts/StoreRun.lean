import EdaGym.Artifacts.Collection

/-!
# Runs of the store

The operations that take the lock follow one another, each in a process that may die before any of
its steps, or that fails to flush a directory.
-/

namespace EdaGym

open Process hiding ofExcept

/-! ### Steps -/

lemma exec_stepFiles (change : StoreFiles → StoreFiles) (files : StoreFiles) :
    (stepFiles change).exec ⟨files, none⟩ = (.ok ⟨⟩, ⟨change files, none⟩) := rfl

lemma exec_stepFiles_eq_ok {change : StoreFiles → StoreFiles} {w w' : StoreWorld} {u : PUnit}
    (h : (stepFiles change).exec w = (.ok u, w')) : w'.files = change w.files := by
  obtain ⟨files, interruption⟩ := w
  rcases interruption with - | ⟨- | n⟩ | -
  case some.dies.zero => cases (Prod.mk.inj h).1
  all_goals exact congrArg StoreWorld.files (Prod.mk.inj h).2.symm

lemma exec_look {α : Type} (read : StoreFiles → Except StoreError α) (w : StoreWorld) :
    (look read).exec w = (read w.files, w) := rfl

lemma exec_exclusiveLock {α : Type} (body : StoreProcess α) (files : StoreFiles) :
    (exclusiveLock body).exec ⟨files, none⟩ = body.exec ⟨files.discardStale, none⟩ :=
  exec_bind_ok (exec_stepFiles _ _)

section Files

variable {P Q : StoreFiles → Prop} {α : Type}

variable {change : StoreFiles → StoreFiles}

/-- A step raises only when the process dies, and then changes nothing. -/
lemma triple_stepFiles (h : ∀ files, P files → Q (change files)) :
    Triple (fun w => P w.files) (stepFiles change)
      fun x w => x = .error .crashed ∧ P w.files ∨ x = .ok ⟨⟩ ∧ Q w.files := by
  intro w hw
  obtain ⟨files, interruption⟩ := w
  rcases interruption with - | ⟨- | n⟩ | -
  case some.dies.zero => exact Or.inl ⟨rfl, hw⟩
  all_goals exact Or.inr ⟨rfl, h files hw⟩

lemma keeps_stepFiles (h : ∀ files, P files → P (change files)) :
    Keeps (fun w => P w.files) (stepFiles change) := by
  refine (triple_stepFiles h).mono (fun _ hw => hw) ?_
  rintro x w (⟨-, hw⟩ | ⟨-, hw⟩) <;> exact hw

/-- A reading, and what the process does with it. -/
lemma triple_look_bind {β : Type} {read : StoreFiles → Except StoreError β}
    {f : β → StoreProcess α} {R : Except StoreError α → StoreWorld → Prop}
    (hf : ∀ b, Triple (fun w => P w.files ∧ read w.files = .ok b) (f b) R)
    (hraised : ∀ e, ∀ w : StoreWorld, P w.files → read w.files = .error e → R (.error e) w) :
    Triple (fun w => P w.files) (look read >>= f) R := by
  refine triple_bind (R := fun x w => P w.files ∧ read w.files = x) (fun w hw => ⟨hw, rfl⟩) hf ?_
  rintro e w ⟨hw, he⟩
  exact hraised e w hw he

lemma keeps_fsyncDirectory : Keeps (fun w => P w.files) fsyncDirectory := fun _ hw => hw

lemma keeps_look (read : StoreFiles → Except StoreError α) :
    Keeps (fun w => P w.files) (look read) := fun _ hw => hw

lemma keeps_exclusiveLock {body : StoreProcess α} (h : ∀ files, P files → P files.discardStale)
    (hbody : Keeps (fun w => P w.files) body) : Keeps (fun w => P w.files) (exclusiveLock body) :=
  (keeps_stepFiles h).bind fun _ => hbody

end Files

/-! ### What markers and collection change -/

section Kept

variable {P : StoreFiles → Prop}

/-- What is linked only where it is not there yet. -/
lemma keeps_unlessPresent {present : StoreFiles → Prop} [DecidablePred present]
    {read : StoreFiles → Except StoreError PUnit} {link : StoreProcess PUnit}
    (h : Triple (fun w => P w.files ∧ ¬ present w.files) link fun _ w => P w.files) :
    Keeps (fun w => P w.files) (do
      let found ← look fun files => .ok (decide (present files))
      if found then look read else link) := by
  refine triple_look_bind (fun found => ?_) fun _ _ hw _ => hw
  split
  · exact fun w hw => hw.1
  · next habsent =>
    rintro w ⟨hw, hfound⟩
    have hnew : ¬ present w.files := fun hpresent =>
      habsent (by rw [← Except.ok.inj hfound, decide_eq_true hpresent])
    exact h w ⟨hw, hnew⟩

/-- A change that is made where something is not there yet. -/
lemma triple_stepFiles_absent {present : StoreFiles → Prop} {change : StoreFiles → StoreFiles}
    (h : ∀ files, P files → ¬ present files → P (change files)) :
    Triple (fun w => P w.files ∧ ¬ present w.files) (stepFiles change) fun _ w => P w.files := by
  refine (triple_stepFiles (P := fun files => P files ∧ ¬ present files) (Q := P)
    fun files hfiles => h files hfiles.1 hfiles.2).mono (fun _ hw => hw) ?_
  rintro x w (⟨-, hkept⟩ | ⟨-, hchanged⟩)
  · exact hkept.1
  · exact hchanged

lemma keeps_publishBytesNoReplace {target : String} {content : Bytes}
    (hpublishing : ∀ files publishing, P files → P { files with publishing := publishing })
    (hlink : ∀ files, P files → target ∉ files.markers →
      P { files with markers := files.markers.insert target content }) :
    Keeps (fun w => P w.files) (publishBytesNoReplace target content) := by
  refine Keeps.bind (keeps_stepFiles fun files => hpublishing files _) fun _ => ?_
  refine Keeps.finallyDo ?_ (keeps_stepFiles fun files => hpublishing files _)
  refine Keeps.bind (keeps_stepFiles fun files => hpublishing files _) fun _ => ?_
  exact Keeps.bind (keeps_unlessPresent (triple_stepFiles_absent hlink)) fun _ =>
    keeps_fsyncDirectory

lemma keeps_collectBlobs {live : LiveArtifacts} {digests : List Digest}
    (hblob : ∀ files digest, P files → P { files with blobs := files.blobs.erase digest }) :
    Keeps (fun w => P w.files) (ContentAddressedStore.collectBlobs live digests) := by
  induction digests with
  | nil => exact keeps_pure _
  | cons digest digests ih =>
    rw [ContentAddressedStore.collectBlobs]
    split
    · exact ih
    · refine Keeps.bind (keeps_stepFiles fun files => hblob files digest) fun _ => ?_
      exact Keeps.bind ih fun _ => keeps_pure _

lemma keeps_collectMarker [MarkerDecoder] {live : LiveArtifacts} {name : String}
    (hmarker : ∀ files name, P files → P { files with markers := files.markers.erase name }) :
    Keeps (fun w => P w.files) (ContentAddressedStore.collectMarker live name) := by
  refine Keeps.bind (keeps_look _) fun marker => ?_
  split
  · exact keeps_pure _
  · exact keeps_stepFiles fun files => hmarker files name

variable [StoreCrypto] [ManifestDecoder] (store : ContentAddressedStore)
variable (hdiscard : ∀ files, P files → P files.discardStale)

include hdiscard in
lemma keeps_commitCheckpoint {checkpointId : Identifier} {committed : CommittedManifest}
    {kind : CheckpointKind} {driverDigest : Option Digest}
    (hpublishing : ∀ files publishing, P files → P { files with publishing := publishing })
    (hlink : ∀ files content, P files → markerName checkpointId ∉ files.markers →
      P { files with markers := files.markers.insert (markerName checkpointId) content }) :
    Keeps (fun w => P w.files)
      (store.commitCheckpoint checkpointId committed kind driverDigest) := by
  refine keeps_exclusiveLock hdiscard ?_
  refine Keeps.bind (keeps_look _) fun m => ?_
  refine Keeps.bind (keeps_ofExcept _) fun _ => ?_
  refine keeps_ofExcept_bind fun marker hmarker => Keeps.bind ?_ fun _ => keeps_pure _
  obtain ⟨-, hid, -⟩ := CheckpointMarker.validate_eq_ok.mp hmarker
  rw [hid]
  exact keeps_publishBytesNoReplace hpublishing fun files => hlink files _

omit [StoreCrypto] [ManifestDecoder] in
lemma keeps_writeChunks {used : Nat} {allowed : Bool} {scanners : ContentAddressedStore.Scanners}
    {content : Bytes} {chunks : List Bytes}
    (hincoming : ∀ files incoming, P files → P { files with incoming := incoming }) :
    Keeps (fun w => P w.files) (store.writeChunks used allowed scanners content chunks) := by
  induction chunks generalizing scanners content with
  | nil => exact keeps_pure _
  | cons chunk chunks ih =>
    rw [ContentAddressedStore.writeChunks]
    refine Keeps.bind (keeps_ofExcept _) fun _ => ?_
    refine Keeps.bind (keeps_stepFiles fun files => hincoming files _) fun _ => ?_
    exact Keeps.bind (keeps_ofExcept _) fun _ => ih

omit [ManifestDecoder] in
include hdiscard in
lemma keeps_putChunks [ContentRules] (nonce : Bytes) (source : ChunkSource) (d : Disclosure)
    (hincoming : ∀ files incoming, P files → P { files with incoming := incoming })
    (hblob : ∀ files content, P files → sha256 content ∉ files.blobs → P { files with
      blobs := files.blobs.insert (sha256 content) (store.envelope nonce content) }) :
    Keeps (fun w => P w.files) (store.putChunks nonce source d) := by
  have hunlink : Keeps (fun w => P w.files) ContentAddressedStore.unlinkIncoming :=
    keeps_stepFiles fun files => hincoming files _
  refine Keeps.bind (keeps_ofExcept _) fun _ => keeps_exclusiveLock hdiscard ?_
  refine Keeps.bind (keeps_look _) fun used => ?_
  refine Keeps.bind (keeps_stepFiles fun files => hincoming files _) fun _ => ?_
  refine Keeps.finallyDo ?_ hunlink
  refine Keeps.bind (keeps_stepFiles fun files => hincoming files _) fun _ => ?_
  refine Keeps.bind (keeps_writeChunks store hincoming) fun content => ?_
  refine Keeps.bind (keeps_ofExcept _) fun _ => Keeps.bind (keeps_ofExcept _) fun _ => ?_
  refine Keeps.bind (keeps_unlessPresent ?_) fun _ => Keeps.bind hunlink fun _ =>
    Keeps.bind keeps_fsyncDirectory fun _ => keeps_pure _
  exact triple_bind (triple_stepFiles_absent fun files => hblob files content)
    (fun _ => keeps_fsyncDirectory) fun _ _ h => h

variable [MarkerDecoder]

include hdiscard in
lemma keeps_loadCheckpoint (checkpointId : Identifier) (kind : CheckpointKind)
    (driverDigest : Option Digest) :
    Keeps (fun w => P w.files) (store.loadCheckpoint checkpointId kind driverDigest) :=
  Keeps.bind (keeps_ofExcept _) fun _ => keeps_exclusiveLock hdiscard (keeps_look _)

include hdiscard in
lemma keeps_garbageCollect (retained : List RetainedArtifact) (now : Datetime)
    (hmarker : ∀ files name, P files → P { files with markers := files.markers.erase name })
    (hblob : ∀ files digest, P files → P { files with blobs := files.blobs.erase digest }) :
    Keeps (fun w => P w.files) (store.garbageCollect retained now) := by
  refine keeps_exclusiveLock hdiscard ?_
  refine Keeps.bind (keeps_look _) fun live => ?_
  refine Keeps.bind (keeps_look _) fun names => ?_
  refine Keeps.bind (Keeps.forEach fun name _ => keeps_collectMarker hmarker) fun _ => ?_
  refine Keeps.bind (keeps_look _) fun digests => ?_
  exact Keeps.bind (keeps_collectBlobs hblob) fun _ => keeps_pure _

end Kept

/-! ### Operations -/

variable [StoreCrypto] [ContentRules] [ManifestDecoder] [MarkerDecoder]

/-- The calls that change the files. -/
inductive StoreOperation
  | putChunks (nonce : Bytes) (source : ChunkSource) (d : Disclosure)
  | putManifest (nonce : Bytes) (m : ArtifactManifest)
  | commitCheckpoint (checkpointId : Identifier) (committed : CommittedManifest)
      (kind : CheckpointKind) (driverDigest : Option Digest)
  | loadCheckpoint (checkpointId : Identifier) (kind : CheckpointKind)
      (driverDigest : Option Digest)
  | garbageCollect (retained : List RetainedArtifact) (now : Datetime)
  | storedBytes

def StoreOperation.run (store : ContentAddressedStore) : StoreOperation → StoreProcess PUnit
  | .putChunks nonce source d => do
    let _ ← store.putChunks nonce source d
  | .putManifest nonce m => do
    let _ ← store.putManifest nonce m
  | .commitCheckpoint checkpointId committed kind driverDigest => do
    let _ ← store.commitCheckpoint checkpointId committed kind driverDigest
  | .loadCheckpoint checkpointId kind driverDigest => do
    let _ ← store.loadCheckpoint checkpointId kind driverDigest
  | .garbageCollect retained now => do
    let _ ← store.garbageCollect retained now
  | .storedBytes => do
    let _ ← ContentAddressedStore.storedBytes

def StoreOperation.Commits (checkpointId : Identifier) : StoreOperation → Prop
  | .commitCheckpoint checkpointId' _ _ _ => checkpointId' = checkpointId
  | _ => False

def StoreOperation.Collects : StoreOperation → Prop
  | .garbageCollect _ _ => True
  | _ => False

variable {store : ContentAddressedStore}

/-- An operation enters blobs and markers that are new; only a collection removes any. -/
lemma StoreOperation.keeps {operation : StoreOperation}
    {P : Dict Digest Envelope → Dict String Bytes → Prop}
    (hdiscard : ∀ blobs markers, P blobs markers →
      P blobs (markers.filterKeys fun name => !isPublishName name))
    (hblob : ∀ blobs markers nonce content, P blobs markers → sha256 content ∉ blobs →
      P (blobs.insert (sha256 content) (store.envelope nonce content)) markers)
    (hlink : ∀ blobs markers checkpointId content, P blobs markers →
      operation.Commits checkpointId → markerName checkpointId ∉ markers →
        P blobs (markers.insert (markerName checkpointId) content))
    (hcollect : operation.Collects → ∀ blobs markers, P blobs markers →
      (∀ digest, P (blobs.erase digest) markers) ∧ ∀ name, P blobs (markers.erase name)) :
    Keeps (fun w => P w.files.blobs w.files.markers) (operation.run store) := by
  have hdiscard' : ∀ files : StoreFiles, P files.blobs files.markers →
      P files.discardStale.blobs files.discardStale.markers := fun files => hdiscard _ _
  have hput : ∀ nonce source d, Keeps (fun w => P w.files.blobs w.files.markers)
      (store.putChunks nonce source d) := fun nonce source d =>
    keeps_putChunks (P := fun files => P files.blobs files.markers) store hdiscard' nonce source d
      (fun _ _ h => h) fun _ => hblob _ _ nonce
  cases operation with
  | putChunks nonce source d => exact Keeps.bind (hput nonce source d) fun _ => keeps_pure _
  | putManifest nonce m =>
    exact Keeps.bind (Keeps.bind (hput nonce _ _) fun _ => keeps_pure _) fun _ => keeps_pure _
  | commitCheckpoint checkpointId committed kind driverDigest =>
    refine Keeps.bind ?_ fun _ => keeps_pure _
    exact keeps_commitCheckpoint (P := fun files => P files.blobs files.markers) store hdiscard'
      (fun _ _ h => h) fun files content h => hlink _ _ checkpointId content h rfl
  | loadCheckpoint checkpointId kind driverDigest =>
    refine Keeps.bind ?_ fun _ => keeps_pure _
    exact keeps_loadCheckpoint (P := fun files => P files.blobs files.markers) store hdiscard' _ _ _
  | garbageCollect retained now =>
    refine Keeps.bind ?_ fun _ => keeps_pure _
    exact keeps_garbageCollect (P := fun files => P files.blobs files.markers) store hdiscard' _ _
      (fun _ name h => (hcollect trivial _ _ h).2 name)
      fun _ digest h => (hcollect trivial _ _ h).1 digest
  | storedBytes =>
    refine Keeps.bind ?_ fun _ => keeps_pure _
    exact keeps_exclusiveLock (P := fun files => P files.blobs files.markers) hdiscard' fun _ h => h

/-- The files after a run of operations that all satisfy `P`, from the empty store; each may die. -/
inductive StoreReachable (store : ContentAddressedStore) (P : StoreOperation → Prop) :
    StoreFiles → Prop
  | init : StoreReachable store P {}
  | step {files : StoreFiles} (operation : StoreOperation) (interruption : Option Interruption) :
      StoreReachable store P files → P operation →
        StoreReachable store P ((operation.run store).exec ⟨files, interruption⟩).2.files

/-- What the empty files satisfy and every operation keeps holds in every reachable store. -/
theorem StoreReachable.invariant {P : StoreOperation → Prop}
    {I : StoreFiles → Prop} {files : StoreFiles} (h : StoreReachable store P files) (hinit : I {})
    (hkeeps : ∀ operation : StoreOperation, P operation →
      Keeps (fun w => I w.files) (operation.run store)) : I files := by
  induction h with
  | init => exact hinit
  | step operation interruption _ hP ih => exact hkeeps operation hP _ ih

/-- The files after operations none of which dies. -/
def filesAfter (store : ContentAddressedStore) (operations : List StoreOperation) : StoreFiles :=
  operations.foldl (fun files operation => ((operation.run store).exec ⟨files, none⟩).2.files) {}

lemma reachable_filesAfter {P : StoreOperation → Prop}
    {operations : List StoreOperation} (h : ∀ operation ∈ operations, P operation) :
    StoreReachable store P (filesAfter store operations) := by
  induction operations using List.reverseRecOn with
  | nil => exact .init
  | append_singleton operations operation ih =>
    rw [filesAfter, List.foldl_append]
    exact .step operation none (ih fun op hop => h op (List.mem_append_left _ hop))
      (h operation (List.mem_append_right _ (List.mem_singleton_self _)))

/-! ### A small store -/

section Small

def lockBlob : BlobRef where
  digest := "sha256:0c030586945fe504b604ecc2e875c38ede400cd5cd73da9730302162e6b02c6f"
  sizeBytes := 4

def lockDisclosure (artifactClass : ArtifactClass) : Disclosure :=
  ⟨artifactClass, .internal, .participant, .restricted⟩

/-- The manifest of one file. -/
def lockManifest : ArtifactManifest where
  toDisclosure := lockDisclosure .checkpoint
  entries := [{ path := "lock.sv", blob := lockBlob, mode := .regular }]

def lockCommitted : CommittedManifest where
  semanticDigest := "sha256:bcb32fd35fc426bf27fb91e3232ce5f6070a30841c44960fbea56eeb16964aa0"
  blob :=
    { digest := "sha256:fb0693a39df4cbdf27d7b1a6f37299b909a4513e5d6aab6d6d648d80f6ca3176"
      sizeBytes := 281 }

/-- SHA-256 of the contents of the small store, and a mode that seals nothing. -/
@[reducible] def smallCrypto : StoreCrypto where
  sha256 content :=
    if content = utf8 "lock" then lockBlob.digest
    else if content = lockManifest.bytes then lockCommitted.blob.digest
    else if content = utf8 "edagym" ++ [0] ++ utf8 "artifact-manifest-v1" ++ [0] ++
        lockManifest.bytes then lockCommitted.semanticDigest
    else "sha256:" ++ String.ofList (List.replicate 64 '0')
  encrypt _ _ _ plaintext := (plaintext, [])
  decrypt _ _ _ _ payload := some payload

@[reducible] def smallRules : ContentRules := ⟨[], []⟩

@[reducible] def smallManifests : ManifestDecoder where
  validateManifest content := if content = lockManifest.bytes then some lockManifest else none
  validateManifestJson content := if content = lockManifest.bytes then some lockManifest else none

def lockMarker (checkpointId : Identifier) (h : isIdentifier checkpointId = true) :
    CheckpointMarker where
  checkpointKind := .filesystem
  checkpointId := checkpointId
  manifestDigest := lockCommitted.semanticDigest
  manifestBlob := lockCommitted.blob
  driverDigest := none
  id_valid := h

@[reducible] def smallMarkers : MarkerDecoder where
  validateMarkerJson content :=
    [lockMarker "lock-1" (by decide), lockMarker "publish-1" (by decide)].find? fun marker =>
      marker.encoded = content

def internalDisclosure : ArtifactDisclosure where
  sensitivity := .internal
  visibility := .participant
  redistribution := .restricted

def dayRule (artifactClass : ArtifactClass) : ArtifactRetentionRule where
  artifactClass := artifactClass
  retentionSeconds := 86400
  allowedDisclosures := [internalDisclosure]

/-- A store without encryption that keeps every class for a day, up to one byte more than given. -/
def smallStore (spareBytes : Nat) : ContentAddressedStore where
  policy :=
    { quotaBytes := spareBytes + 1
      rule := dayRule
      quota_pos := Nat.succ_pos spareBytes
      rule_class := fun _ => rfl
      encryption_required := fun _ _ _ h => by rw [List.mem_singleton.mp h]; decide }
  policyDigest := ""
  encryptionKey := none
  key_iff := by simp

/-- A store that holds the file. -/
def lockFiles : StoreFiles :=
  filesAfter (smallStore 9999)
    [.putChunks [] { chunks := [utf8 "lock"] } (lockDisclosure .checkpoint)]

/-- Store the file and the manifest, then commit a checkpoint of it. -/
def lockOperations (checkpointId : Identifier) : List StoreOperation :=
  [.putChunks [] { chunks := [utf8 "lock"] } (lockDisclosure .checkpoint),
   .putManifest [] lockManifest,
   .commitCheckpoint checkpointId lockCommitted .filesystem none]

end Small

end EdaGym
