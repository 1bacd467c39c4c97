import EdaGym.Artifacts.StoreRun

/-!
# What garbage collection keeps

A collection that returns is a filter: of the blobs by liveness, of the markers by the live
checkpoint manifests. Everything else about it is read off the filter.
-/

namespace EdaGym

open Process hiding ofExcept

/-! ### Filtered files -/

namespace StoreFiles

variable {p q : String → Bool}

def keepMarkers (p : String → Bool) (files : StoreFiles) : StoreFiles :=
  { files with markers := files.markers.filterKeys p }

def keepBlobs (p : Digest → Bool) (files : StoreFiles) : StoreFiles :=
  { files with blobs := files.blobs.filterKeys p }

variable {files : StoreFiles}

lemma keepMarkers_congr (h : ∀ name ∈ files.markers, p name = q name) :
    files.keepMarkers p = files.keepMarkers q := by
  rw [keepMarkers, keepMarkers, Dict.filterKeys_congr h]

lemma keepMarkers_keepMarkers (files : StoreFiles) :
    (files.keepMarkers p).keepMarkers q = files.keepMarkers fun name => p name && q name := by
  simp only [keepMarkers, Dict.filterKeys_filterKeys]

lemma keepMarkers_eq_self (h : ∀ name ∈ files.markers, p name = true) :
    files.keepMarkers p = files := by
  rw [keepMarkers, Dict.filterKeys_eq_self h]

lemma keepBlobs_congr (h : ∀ digest ∈ files.blobs, p digest = q digest) :
    files.keepBlobs p = files.keepBlobs q := by
  rw [keepBlobs, keepBlobs, Dict.filterKeys_congr h]

lemma keepBlobs_keepBlobs (files : StoreFiles) :
    (files.keepBlobs p).keepBlobs q = files.keepBlobs fun digest => p digest && q digest := by
  simp only [keepBlobs, Dict.filterKeys_filterKeys]

lemma keepBlobs_eq_self (h : ∀ digest ∈ files.blobs, p digest = true) :
    files.keepBlobs p = files := by
  rw [keepBlobs, Dict.filterKeys_eq_self h]

end StoreFiles

namespace ContentAddressedStore

/-! ### Markers -/

lemma markerName_of_markerStem {name : String} {checkpointId : Identifier}
    (h : markerStem name = some checkpointId) : markerName checkpointId = name := by
  rw [markerStem] at h
  split at h
  · next hname =>
    obtain ⟨hsuffix, -⟩ := hname
    obtain ⟨stem, hstem⟩ := List.isSuffixOf_iff_suffix.mp hsuffix
    rw [Option.some.injEq] at h
    have hlength : name.toList.length - 5 = stem.length := by
      rw [← hstem, List.length_append]
      exact Nat.add_sub_cancel _ _
    rw [hlength, ← hstem, List.take_left] at h
    rw [← h, ← String.ofList_toList (s := name), ← hstem, String.ofList_append]
    rfl
  · cases h

section Markers

variable [MarkerDecoder]

/-- A marker is read from its own file only. -/
lemma namedMarker_congr {files files' : StoreFiles} {name : String}
    (h : files.markers.get? name = files'.markers.get? name) :
    namedMarker files name = namedMarker files' name := by
  rw [namedMarker, namedMarker]
  cases hstem : markerStem name with
  | none => rfl
  | some checkpointId =>
    simp only [orRaise, ok_bind, loadCheckpointMarker, readSecureFile,
      markerName_of_markerStem hstem, h]

local instance lawfulMarker : LawfulBEq (Digest × Nat × Digest) := inferInstance

/-- Whether the marker of a file name stands for a live checkpoint manifest. -/
def survives (files : StoreFiles) (live : LiveArtifacts) (name : String) : Bool :=
  match namedMarker files name with
  | .ok marker => markerReference marker ∈ live.checkpoints
  | .error _ => false

lemma collectMarker_returns {live : LiveArtifacts} {name : String} {w w' : StoreWorld} {u : PUnit}
    (h : (collectMarker live name).exec w = (.ok u, w')) :
    (∃ marker, namedMarker w.files name = .ok marker) ∧
      w'.files = w.files.keepMarkers fun n => n ≠ name || survives w.files live name := by
  obtain ⟨marker, w₁, hread, h⟩ := exec_bind_eq_ok.mp h
  rw [exec_look, Prod.mk.injEq] at hread
  obtain ⟨hmarker, rfl⟩ := hread
  refine ⟨⟨marker, hmarker⟩, ?_⟩
  have hsurvives : survives w.files live name =
      decide (markerReference marker ∈ live.checkpoints) := by
    rw [survives, hmarker]
  split at h
  · next hlive =>
    cases h
    rw [hsurvives, decide_eq_true hlive, StoreFiles.keepMarkers_eq_self fun _ _ => Bool.or_true _]
  · next hdead =>
    rw [exec_stepFiles_eq_ok h, hsurvives, decide_eq_false hdead, Dict.erase_eq_filterKeys]
    simp only [Bool.or_false, StoreFiles.keepMarkers]

lemma collectMarkers_returns {live : LiveArtifacts} {names : List String} (hnodup : names.Nodup)
    {w w' : StoreWorld} {u : PUnit}
    (h : (forEach (collectMarker live) names).exec w = (.ok u, w')) :
    (∀ name ∈ names, ∃ marker, namedMarker w.files name = .ok marker) ∧
      w'.files = w.files.keepMarkers fun n => n ∉ names || survives w.files live n := by
  induction names generalizing w with
  | nil =>
    cases h
    refine ⟨fun _ hmem => absurd hmem List.not_mem_nil, ?_⟩
    rw [StoreFiles.keepMarkers_eq_self fun _ _ => by simp]
  | cons name names ih =>
    rw [List.nodup_cons] at hnodup
    obtain ⟨_, w₁, hfirst, hrest⟩ := exec_bind_eq_ok.mp h
    obtain ⟨hmarker, hfiles⟩ := collectMarker_returns hfirst
    obtain ⟨hmarkers, hfiles'⟩ := ih hnodup.2 hrest
    have hsame : ∀ n ∈ names, namedMarker w₁.files n = namedMarker w.files n := by
      intro n hn
      apply namedMarker_congr
      have hne : n ≠ name := fun heq => hnodup.1 (heq ▸ hn)
      rw [hfiles, StoreFiles.keepMarkers, Dict.get?_filterKeys, if_pos (by simp [hne])]
    refine ⟨?_, ?_⟩
    · rw [List.forall_mem_cons]
      exact ⟨hmarker, fun n hn => hsame n hn ▸ hmarkers n hn⟩
    · have hcongr : ∀ n ∈ w₁.files.markers, (n ∉ names || survives w₁.files live n : Bool) =
          (n ∉ names || survives w.files live n : Bool) := by
        intro n _
        by_cases hn : n ∈ names
        · rw [survives, survives, hsame n hn]
        · simp [hn]
      rw [hfiles', StoreFiles.keepMarkers_congr hcongr, hfiles, StoreFiles.keepMarkers_keepMarkers]
      apply StoreFiles.keepMarkers_congr
      intro n _
      by_cases heq : n = name
      · subst heq
        simp [hnodup.1]
      · simp [heq]

end Markers

/-! ### Blobs -/

lemma collectBlobs_returns {live : LiveArtifacts} {digests removed : List Digest}
    {w w' : StoreWorld} (h : (collectBlobs live digests).exec w = (.ok removed, w')) :
    removed = digests.filter (· ∉ live.digests) ∧
      w'.files = w.files.keepBlobs fun d => d ∉ digests || d ∈ live.digests := by
  induction digests generalizing w removed with
  | nil =>
    cases h
    refine ⟨rfl, ?_⟩
    rw [StoreFiles.keepBlobs_eq_self fun _ _ => by simp]
  | cons digest digests ih =>
    rw [collectBlobs] at h
    split at h
    · next hlive =>
      obtain ⟨hremoved, hfiles⟩ := ih h
      refine ⟨by simp [hremoved, hlive], ?_⟩
      rw [hfiles]
      apply StoreFiles.keepBlobs_congr
      intro d _
      by_cases hd : d = digest
      · simp [hd, hlive]
      · simp [hd]
    · next hdead =>
      obtain ⟨_, w₁, hfirst, h⟩ := exec_bind_eq_ok.mp h
      obtain ⟨rest, w₂, hrest, h⟩ := exec_bind_eq_ok.mp h
      cases h
      obtain ⟨hremoved, hfiles⟩ := ih hrest
      have hstep : w₁.files = w.files.keepBlobs fun d => d ≠ digest := exec_stepFiles_eq_ok hfirst
      refine ⟨by simp [hremoved, hdead], ?_⟩
      rw [hfiles, hstep, StoreFiles.keepBlobs_keepBlobs]
      apply StoreFiles.keepBlobs_congr
      intro d _
      by_cases hd : d = digest
      · simp [hd, hdead]
      · simp [hd]

end ContentAddressedStore

namespace ContentAddressedStore

variable [StoreCrypto] [ManifestDecoder]
variable (store : ContentAddressedStore)

/-! ### Liveness -/

/-- A retained record that is a manifest, with what it loads to. -/
structure RetainsManifest (files : StoreFiles) (records : List ArtifactRecord)
    (record : ArtifactRecord) (m : ArtifactManifest) : Prop where
  mem : record ∈ records
  mediaType_eq : record.mediaType = ARTIFACT_MANIFEST_MEDIA_TYPE
  loads : store.loadManifestBlob files record.blob none = .ok m
  disclosure_eq : m.toDisclosure = record.toDisclosure

/-- The blob of a retained record, or an entry of its manifest. -/
def IsLive (files : StoreFiles) (records : List ArtifactRecord) (digest : Digest) : Prop :=
  (∃ record ∈ records, record.blob.digest = digest) ∨
    ∃ record m, store.RetainsManifest files records record m ∧
      ∃ entry ∈ m.entries, entry.blob.digest = digest

/-- The manifest of a retained checkpoint record, as markers name it. -/
def IsLiveCheckpoint (files : StoreFiles) (records : List ArtifactRecord)
    (reference : Digest × Nat × Digest) : Prop :=
  ∃ record m, store.RetainsManifest files records record m ∧ record.artifactClass = .checkpoint ∧
    reference = (record.blob.digest, record.blob.sizeBytes, m.digest)

/-- What `live` holds after the records. -/
structure Marks (files : StoreFiles) (records : List ArtifactRecord) (live : LiveArtifacts) :
    Prop where
  digests : ∀ digest, digest ∈ live.digests ↔ store.IsLive files records digest
  checkpoints : ∀ reference, reference ∈ live.checkpoints ↔
    store.IsLiveCheckpoint files records reference
  loads : ∀ record ∈ records, record.mediaType = ARTIFACT_MANIFEST_MEDIA_TYPE →
    ∃ m, store.RetainsManifest files records record m

section Marks

variable {store} {files : StoreFiles} {records : List ArtifactRecord} {record : ArtifactRecord}

lemma retainsManifest_concat {record' : ArtifactRecord} {m : ArtifactManifest} :
    store.RetainsManifest files (records ++ [record]) record' m ↔
      store.RetainsManifest files records record' m ∨
        record' = record ∧ store.RetainsManifest files [record] record m := by
  constructor
  · rintro ⟨hmem, hmedia, hloads, hdisclosure⟩
    rcases List.mem_append.mp hmem with hmem | hmem
    · exact Or.inl ⟨hmem, hmedia, hloads, hdisclosure⟩
    · obtain rfl := List.mem_singleton.mp hmem
      exact Or.inr ⟨rfl, List.mem_singleton_self _, hmedia, hloads, hdisclosure⟩
  · rintro (⟨hmem, hmedia, hloads, hdisclosure⟩ | ⟨rfl, -, hmedia, hloads, hdisclosure⟩)
    · exact ⟨List.mem_append_left _ hmem, hmedia, hloads, hdisclosure⟩
    · exact ⟨List.mem_append_right _ (List.mem_singleton_self _), hmedia, hloads, hdisclosure⟩

/-- What one record adds. -/
lemma markLive_eq_ok {live live' : LiveArtifacts} :
    store.markLive files live record = .ok live' ↔
      record.mediaType ≠ ARTIFACT_MANIFEST_MEDIA_TYPE ∧
          live' = { live with digests := live.digests ++ [record.blob.digest] } ∨
        ∃ m, store.RetainsManifest files [record] record m ∧
          live'.digests = live.digests ++ [record.blob.digest] ++
            m.entries.map (fun entry => entry.blob.digest) ∧
          live'.checkpoints = if record.artifactClass = .checkpoint then
              live.checkpoints ++ [(record.blob.digest, record.blob.sizeBytes, m.digest)]
            else live.checkpoints := by
  rw [markLive]
  split
  · next hmedia =>
    rw [Except.ok.injEq]
    constructor
    · rintro rfl
      exact Or.inl ⟨hmedia, rfl⟩
    · rintro (⟨-, rfl⟩ | ⟨m, hm, -⟩)
      · rfl
      · exact absurd hm.mediaType_eq hmedia
  · next hmedia =>
    rw [ne_eq, not_not] at hmedia
    simp only [bind_eq_ok, raiseIf_eq_ok, exists_const, pure_eq_ok, ne_eq, not_not]
    constructor
    · rintro ⟨m, hload, hdisclosure, rfl⟩
      exact Or.inr ⟨m, ⟨List.mem_singleton_self _, hmedia, hload, hdisclosure⟩, rfl, rfl⟩
    · rintro (⟨hne, -⟩ | ⟨m, hm, hdigests, hcheckpoints⟩)
      · exact absurd hmedia hne
      · refine ⟨m, hm.loads, hm.disclosure_eq, ?_⟩
        cases live'
        simp only at hdigests hcheckpoints
        rw [hdigests, hcheckpoints]

lemma RetainsManifest.eq {records' : List ArtifactRecord} {m m' : ArtifactManifest}
    (h : store.RetainsManifest files records record m)
    (h' : store.RetainsManifest files records' record m') : m' = m := by
  have hload := h'.loads
  rw [h.loads, Except.ok.injEq] at hload
  exact hload.symm

lemma isLive_concat {digest : Digest} :
    store.IsLive files (records ++ [record]) digest ↔
      store.IsLive files records digest ∨ record.blob.digest = digest ∨
        ∃ m, store.RetainsManifest files [record] record m ∧
          ∃ entry ∈ m.entries, entry.blob.digest = digest := by
  simp only [IsLive, retainsManifest_concat, List.mem_append, List.mem_singleton]
  constructor
  · rintro (⟨record', hmem | rfl, hdigest⟩ | ⟨record', m, hm | ⟨rfl, hm⟩, hentry⟩)
    · exact Or.inl (Or.inl ⟨record', hmem, hdigest⟩)
    · exact Or.inr (Or.inl hdigest)
    · exact Or.inl (Or.inr ⟨record', m, hm, hentry⟩)
    · exact Or.inr (Or.inr ⟨m, hm, hentry⟩)
  · rintro ((⟨record', hmem, hdigest⟩ | ⟨record', m, hm, hentry⟩) | hdigest | ⟨m, hm, hentry⟩)
    · exact Or.inl ⟨record', Or.inl hmem, hdigest⟩
    · exact Or.inr ⟨record', m, Or.inl hm, hentry⟩
    · exact Or.inl ⟨record, Or.inr rfl, hdigest⟩
    · exact Or.inr ⟨record, m, Or.inr ⟨rfl, hm⟩, hentry⟩

lemma isLiveCheckpoint_concat {reference : Digest × Nat × Digest} :
    store.IsLiveCheckpoint files (records ++ [record]) reference ↔
      store.IsLiveCheckpoint files records reference ∨
        ∃ m, store.RetainsManifest files [record] record m ∧ record.artifactClass = .checkpoint ∧
          reference = (record.blob.digest, record.blob.sizeBytes, m.digest) := by
  simp only [IsLiveCheckpoint, retainsManifest_concat]
  constructor
  · rintro ⟨record', m, hm | ⟨rfl, hm⟩, hclass, href⟩
    · exact Or.inl ⟨record', m, hm, hclass, href⟩
    · exact Or.inr ⟨m, hm, hclass, href⟩
  · rintro (⟨record', m, hm, hclass, href⟩ | ⟨m, hm, hclass, href⟩)
    · exact ⟨record', m, Or.inl hm, hclass, href⟩
    · exact ⟨record, m, Or.inr ⟨rfl, hm⟩, hclass, href⟩

lemma Marks.concat {live live' : LiveArtifacts} (h : store.Marks files records live)
    (hstep : store.markLive files live record = .ok live') :
    store.Marks files (records ++ [record]) live' := by
  rcases markLive_eq_ok.mp hstep with ⟨hmedia, rfl⟩ | ⟨m, hm, hdigests, hcheckpoints⟩
  · have hnone : ∀ m, ¬ store.RetainsManifest files [record] record m :=
      fun m hm => hmedia hm.mediaType_eq
    refine ⟨fun digest => ?_, fun reference => ?_, fun record' hmem hmedia' => ?_⟩
    · rw [isLive_concat, ← h.digests]
      simp [hnone, eq_comm]
    · rw [isLiveCheckpoint_concat, ← h.checkpoints]
      simp [hnone]
    · rcases List.mem_append.mp hmem with hmem | hmem
      · obtain ⟨m, hm⟩ := h.loads record' hmem hmedia'
        exact ⟨m, retainsManifest_concat.mpr (Or.inl hm)⟩
      · rw [List.mem_singleton.mp hmem] at hmedia'
        exact absurd hmedia' hmedia
  · have honly : ∀ m', store.RetainsManifest files [record] record m' ↔ m' = m := by
      intro m'
      constructor
      · exact fun hm' => hm.eq hm'
      · rintro rfl
        exact hm
    refine ⟨fun digest => ?_, fun reference => ?_, fun record' hmem hmedia' => ?_⟩
    · rw [isLive_concat, ← h.digests, hdigests]
      simp [honly, eq_comm]
    · rw [isLiveCheckpoint_concat, ← h.checkpoints, hcheckpoints]
      by_cases hclass : record.artifactClass = .checkpoint <;> simp [honly, hclass]
    · rcases List.mem_append.mp hmem with hmem | hmem
      · obtain ⟨m', hm'⟩ := h.loads record' hmem hmedia'
        exact ⟨m', retainsManifest_concat.mpr (Or.inl hm')⟩
      · obtain rfl := List.mem_singleton.mp hmem
        exact ⟨m, retainsManifest_concat.mpr (Or.inr ⟨rfl, hm⟩)⟩

end Marks

/-- The closure that collection computes is liveness. -/
theorem liveArtifacts_marks {files : StoreFiles} {records : List ArtifactRecord}
    {live : LiveArtifacts} (h : store.liveArtifacts files records = .ok live) :
    store.Marks files records live := by
  refine foldSteps_induction (P := fun records live => store.Marks files records live) ?_ ?_ h
  · exact fun _ _ _ _ hmarks hstep => hmarks.concat hstep
  · refine ⟨fun digest => ?_, fun reference => ?_, fun record hmem => absurd hmem List.not_mem_nil⟩
    · simp only [IsLive, List.not_mem_nil, false_iff, not_or, not_exists]
      exact ⟨fun _ h => h.1.elim, fun _ _ h => absurd h.1.mem List.not_mem_nil⟩
    · simp only [IsLiveCheckpoint, List.not_mem_nil, false_iff, not_exists]
      exact fun _ _ h => absurd h.1.mem List.not_mem_nil

/-! ### The filter -/

variable [MarkerDecoder] {store} {retained : List RetainedArtifact} {now : Datetime}
  {files : StoreFiles} {removed : List Digest}

theorem garbageCollect_returns {w w' : StoreWorld}
    (h : (store.garbageCollect retained now).exec w = (.ok removed, w')) :
    ∃ live, store.liveArtifacts w.files (store.retainedRecords retained now) = .ok live ∧
      (∀ name ∈ w.files.discardStale.markers,
        ∃ marker, namedMarker w.files.discardStale name = .ok marker) ∧
      w'.files = (w.files.discardStale.keepMarkers (survives w.files.discardStale live)).keepBlobs
        (· ∈ live.digests) ∧
      removed =
        sortedStrings ((sortedBy shardName w.files.blobs.keys).filter (· ∉ live.digests)) := by
  obtain ⟨_, w₁, hlock, h⟩ := exec_bind_eq_ok.mp h
  have hfiles := exec_stepFiles_eq_ok hlock
  obtain ⟨live, w₂, hlive, h⟩ := exec_bind_eq_ok.mp h
  rw [exec_look, Prod.mk.injEq] at hlive
  obtain ⟨hlive, rfl⟩ := hlive
  obtain ⟨names, w₂, hnames, h⟩ := exec_bind_eq_ok.mp h
  rw [exec_look, Prod.mk.injEq, Except.ok.injEq] at hnames
  obtain ⟨rfl, rfl⟩ := hnames
  obtain ⟨_, w₂, hmarkers, h⟩ := exec_bind_eq_ok.mp h
  obtain ⟨digests, w₃, hdigests, h⟩ := exec_bind_eq_ok.mp h
  rw [exec_look, Prod.mk.injEq, Except.ok.injEq] at hdigests
  obtain ⟨rfl, rfl⟩ := hdigests
  obtain ⟨removed', w₃, hblobs, h⟩ := exec_bind_eq_ok.mp h
  cases h
  have hnodup : (sortedStrings w₁.files.markers.keys).Nodup :=
    (sortedStrings_perm _).nodup_iff.mpr w₁.files.markers.nodup
  obtain ⟨hnamed, hkept⟩ := collectMarkers_returns hnodup hmarkers
  obtain ⟨hremoved, hswept⟩ := collectBlobs_returns hblobs
  rw [hfiles] at hlive hnamed hkept
  refine ⟨live, hlive, fun name hname => hnamed name (mem_sortedStrings.mpr hname), ?_, ?_⟩
  · rw [hswept, hkept]
    have hmarkers : ∀ name ∈ w.files.discardStale.markers,
        (name ∉ sortedStrings w.files.discardStale.markers.keys ||
          survives w.files.discardStale live name : Bool) =
            survives w.files.discardStale live name := by
      intro name hname
      simp [mem_sortedStrings.mpr (Dict.mem_keys.mpr hname)]
    rw [StoreFiles.keepMarkers_congr hmarkers]
    apply StoreFiles.keepBlobs_congr
    intro d hd
    have hmem : d ∈ sortedBy shardName (StoreFiles.keepMarkers
        (survives w.files.discardStale live) w.files.discardStale).blobs.keys :=
      mem_sortedBy.mpr hd
    rw [decide_eq_false (not_not_intro hmem), Bool.false_or]
  · rw [hremoved, hkept]
    rfl

/-- A collection that finds everything live changes nothing. -/
lemma garbageCollect_settled {live : LiveArtifacts}
    (hlive : store.liveArtifacts files (store.retainedRecords retained now) = .ok live)
    (hdiscard : files.discardStale = files)
    (hmarkers : ∀ name ∈ files.markers, ∃ marker, namedMarker files name = .ok marker ∧
      markerReference marker ∈ live.checkpoints)
    (hblobs : ∀ digest ∈ files.blobs, digest ∈ live.digests) :
    (store.garbageCollect retained now).exec ⟨files, none⟩ = (.ok [], ⟨files, none⟩) := by
  have hcollect : ∀ names : List String, (∀ name ∈ names, name ∈ files.markers) →
      (forEach (collectMarker live) names).exec ⟨files, none⟩ = (.ok ⟨⟩, ⟨files, none⟩) := by
    intro names hnames
    induction names with
    | nil => rfl
    | cons name names ih =>
      rw [List.forall_mem_cons] at hnames
      obtain ⟨marker, hmarker, href⟩ := hmarkers name hnames.1
      have hone : (collectMarker live name).exec ⟨files, none⟩ = (.ok ⟨⟩, ⟨files, none⟩) := by
        rw [collectMarker]
        refine Eq.trans (exec_bind_ok (by rw [exec_look, hmarker])) ?_
        rw [if_pos href, exec_pure]
      exact (exec_bind_ok hone).trans (ih hnames.2)
  have hsweep : ∀ digests : List Digest, (∀ d ∈ digests, d ∈ files.blobs) →
      (collectBlobs live digests).exec ⟨files, none⟩ = (.ok [], ⟨files, none⟩) := by
    intro digests hdigests
    induction digests with
    | nil => rfl
    | cons d digests ih =>
      rw [List.forall_mem_cons] at hdigests
      rw [collectBlobs, if_pos (hblobs d hdigests.1), ih hdigests.2]
  rw [garbageCollect, exec_exclusiveLock, hdiscard]
  refine Eq.trans (exec_bind_ok (by rw [exec_look, hlive])) ?_
  refine Eq.trans (exec_bind_ok (exec_look _ _)) ?_
  refine Eq.trans (exec_bind_ok (hcollect _ fun name hname => mem_sortedStrings.mp hname)) ?_
  refine Eq.trans (exec_bind_ok (exec_look _ _)) ?_
  refine Eq.trans (exec_bind_ok (hsweep _ fun d hd => mem_sortedBy.mp hd)) ?_
  rfl

/-- A collection that cannot read a retained manifest changes neither blobs nor markers. -/
lemma garbageCollect_raises {e : StoreError}
    (h : store.liveArtifacts files (store.retainedRecords retained now) = .error e) :
    (store.garbageCollect retained now).exec ⟨files, none⟩ =
      (.error e, ⟨files.discardStale, none⟩) := by
  rw [garbageCollect, exec_exclusiveLock]
  refine exec_bind_error (Prod.ext ?_ rfl)
  exact h

/-! ### Safety -/

/-- What a collection that returns has done to the files, for its retained records. -/
structure CollectsSafely (store : ContentAddressedStore) (files files' : StoreFiles)
    (records : List ArtifactRecord) (removed : List Digest) : Prop where
  blobs : ∀ digest e, files'.blobs.get? digest = some e ↔
    files.blobs.get? digest = some e ∧ store.IsLive files records digest
  verifies : ∀ record ∈ records, store.verify files' record.blob = store.verify files record.blob
  loads : ∀ record ∈ records, record.mediaType = ARTIFACT_MANIFEST_MEDIA_TYPE →
    ∃ m, store.RetainsManifest files records record m ∧
      store.RetainsManifest files' records record m
  markers : ∀ name content, files'.markers.get? name = some content →
    files.markers.get? name = some content ∧ ∃ marker m,
      name = markerName marker.checkpointId ∧
      (store.loadCheckpoint marker.checkpointId marker.checkpointKind marker.driverDigest).exec
        ⟨files', none⟩ = (.ok (marker, m), ⟨files', none⟩)
  markers_removed : ∀ name ∈ files.markers, name ∉ files'.markers →
    ∃ marker, namedMarker files name = .ok marker ∧
      ∀ record m, store.RetainsManifest files records record m →
        record.artifactClass = .checkpoint →
          ¬ (marker.manifestBlob = record.blob ∧ marker.manifestDigest = m.digest)
  removed_sorted : removed.Pairwise (· < ·)
  mem_removed : ∀ digest, digest ∈ removed ↔ digest ∈ files.blobs ∧ digest ∉ files'.blobs

/-- No marker is taken for a temporary file. -/
def NoPublishName (files : StoreFiles) : Prop :=
  ∀ name ∈ files.markers, isPublishName name = false

omit [StoreCrypto] [ManifestDecoder] [MarkerDecoder] in
lemma NoPublishName.discardStale_markers (h : NoPublishName files) :
    files.discardStale.markers = files.markers := by
  rw [StoreFiles.discardStale, Dict.filterKeys_eq_self]
  intro name hname
  rw [h name hname, Bool.not_false]

variable {files' : StoreFiles}

omit [MarkerDecoder] in
/-- The blobs that a live record and its manifest need stay. -/
lemma RetainsManifest.keep {records : List ArtifactRecord} {record : ArtifactRecord}
    {m : ArtifactManifest}
    (h : store.RetainsManifest files records record m)
    (hkeep : ∀ d, store.IsLive files records d → files'.blobs.get? d = files.blobs.get? d) :
    store.RetainsManifest files' records record m := by
  refine ⟨h.mem, h.mediaType_eq, loadManifestBlob_mono h.loads ?_ fun entry hentry => ?_,
    h.disclosure_eq⟩
  · exact hkeep _ (Or.inl ⟨record, h.mem, rfl⟩)
  · exact hkeep _ (Or.inr ⟨record, m, h, entry, hentry, rfl⟩)

section

omit [StoreCrypto] [ManifestDecoder]

lemma survives_iff {live : LiveArtifacts} {name : String} :
    survives files live name = true ↔
      ∃ marker, namedMarker files name = .ok marker ∧
        markerReference marker ∈ live.checkpoints := by
  rw [survives]
  cases h : namedMarker files name <;> simp

lemma namedMarker_eq_ok {name : String} {marker : CheckpointMarker}
    (h : namedMarker files name = .ok marker) :
    name = markerName marker.checkpointId ∧
      loadCheckpointMarker files marker.checkpointId = .ok marker := by
  simp only [namedMarker, bind_eq_ok, orRaise_eq_ok] at h
  obtain ⟨checkpointId, hstem, hload⟩ := h
  have hid : marker.checkpointId = checkpointId := by
    simp only [loadCheckpointMarker, bind_eq_ok, raiseIf_eq_ok, exists_const, pure_eq_ok, ne_eq,
      not_not] at hload
    obtain ⟨_, -, _, -, -, hid, rfl⟩ := hload
    exact hid
  rw [hid]
  exact ⟨(markerName_of_markerStem hstem).symm, hload⟩

lemma loadCheckpointMarker_congr {files' : StoreFiles} {checkpointId : Identifier}
    (h : files'.markers.get? (markerName checkpointId) =
      files.markers.get? (markerName checkpointId)) :
    loadCheckpointMarker files' checkpointId = loadCheckpointMarker files checkpointId := by
  rw [loadCheckpointMarker, loadCheckpointMarker, readSecureFile, readSecureFile, h]

end

omit [StoreCrypto] [ManifestDecoder] [MarkerDecoder] in
lemma NoPublishName.discardStale_eq (h : NoPublishName files) (hincoming : files.incoming = [])
    (hpublishing : files.publishing = []) : files.discardStale = files := by
  have hmarkers := h.discardStale_markers
  obtain ⟨blobs, markers, incoming, publishing⟩ := files
  simp only at hincoming hpublishing hmarkers
  rw [StoreFiles.discardStale] at hmarkers ⊢
  simp only [StoreFiles.mk.injEq, true_and]
  exact ⟨hmarkers, hincoming.symm, hpublishing.symm⟩

/-- A checkpoint can be loaded when its marker and its manifest can be read. -/
lemma exec_loadCheckpoint {marker : CheckpointMarker} {m : ArtifactManifest}
    (hdiscard : files.discardStale = files')
    (hmarker : loadCheckpointMarker files' marker.checkpointId = .ok marker)
    (hload : store.loadManifestBlob files' marker.manifestBlob (some marker.manifestDigest) = .ok m)
    (hclass : m.artifactClass = .checkpoint) :
    (store.loadCheckpoint marker.checkpointId marker.checkpointKind marker.driverDigest).exec
      ⟨files, none⟩ = (.ok (marker, m), ⟨files', none⟩) := by
  rw [loadCheckpoint]
  refine Eq.trans (exec_bind_ok (by
    rw [exec_ofExcept, CheckpointMarker.validate, dif_pos marker.id_valid,
      dif_pos marker.driver_iff])) ?_
  rw [exec_exclusiveLock, hdiscard, exec_look]
  refine Prod.ext ?_ rfl
  simp only [readCheckpoint, loadCommittedManifest, bind_eq_ok, raiseIf_eq_ok, exists_const,
    pure_eq_ok]
  exact ⟨marker, hmarker, by simp, m, hload, by simpa using hclass, rfl⟩

variable {interruption : Option Interruption} {w' : StoreWorld}

/-- The filter, as what is read from the files afterwards. -/
lemma garbageCollect_reads (hpublish : NoPublishName files)
    (h : (store.garbageCollect retained now).exec ⟨files, interruption⟩ = (.ok removed, w')) :
    ∃ live, store.liveArtifacts files (store.retainedRecords retained now) = .ok live ∧
      (∀ name ∈ files.markers, ∃ marker, namedMarker files name = .ok marker) ∧
      (∀ d, w'.files.blobs.get? d = if d ∈ live.digests then files.blobs.get? d else none) ∧
      (∀ name, w'.files.markers.get? name =
        if survives files live name then files.markers.get? name else none) ∧
      w'.files.discardStale = w'.files ∧
      removed =
        sortedStrings ((sortedBy shardName files.blobs.keys).filter (· ∉ live.digests)) := by
  obtain ⟨live, hlive, hnamed, hfiles', hremoved⟩ := garbageCollect_returns h
  have hmarkers := hpublish.discardStale_markers
  have hsame : ∀ name, namedMarker files.discardStale name = namedMarker files name :=
    fun name => namedMarker_congr (by rw [hmarkers])
  have hgetm : ∀ name, w'.files.markers.get? name =
      if survives files live name then files.markers.get? name else none := by
    intro name
    have hsurvives : survives files.discardStale live name = survives files live name := by
      rw [survives, survives, hsame name]
    rw [← hsurvives, ← hmarkers, hfiles']
    exact Dict.get?_filterKeys _ _ _
  refine ⟨live, hlive, ?_, ?_, hgetm, ?_, hremoved⟩
  · intro name hmem
    rw [← hsame]
    exact hnamed name (by rw [hmarkers]; exact hmem)
  · intro d
    rw [hfiles', StoreFiles.keepBlobs, Dict.get?_filterKeys]
    simp only [decide_eq_true_eq]
    rfl
  · have hpublish' : NoPublishName w'.files := by
      intro n hn
      obtain ⟨c, hc⟩ := Dict.mem_iff.mp hn
      rw [hgetm] at hc
      split at hc
      · exact hpublish n (Dict.mem_of_get? hc)
      · cases hc
    exact hpublish'.discardStale_eq (by rw [hfiles']; rfl) (by rw [hfiles']; rfl)

theorem garbageCollect_safe (hpublish : NoPublishName files)
    (h : (store.garbageCollect retained now).exec ⟨files, interruption⟩ = (.ok removed, w')) :
    CollectsSafely store files w'.files (store.retainedRecords retained now) removed := by
  obtain ⟨live, hlive, hnamed, hget, hgetm, hdiscard, hremoved⟩ := garbageCollect_reads hpublish h
  have hmarks := store.liveArtifacts_marks hlive
  have hkeep : ∀ d, store.IsLive files (store.retainedRecords retained now) d →
      w'.files.blobs.get? d = files.blobs.get? d := by
    intro d hd
    rw [hget, if_pos ((hmarks.digests d).mpr hd)]
  refine ⟨?_, ?_, ?_, ?_, ?_, ?_, ?_⟩
  · intro digest e
    rw [hget, ← hmarks.digests]
    split_ifs with hlive <;> simp [hlive]
  · exact fun record hmem => verify_congr (hkeep _ (Or.inl ⟨record, hmem, rfl⟩))
  · intro record hmem hmedia
    obtain ⟨m, hm⟩ := hmarks.loads record hmem hmedia
    exact ⟨m, hm, hm.keep hkeep⟩
  · intro name content hcontent
    have hsurvives : survives files live name = true := by
      by_contra hdead
      rw [hgetm, if_neg hdead] at hcontent
      cases hcontent
    obtain ⟨marker, hmarker, href⟩ := survives_iff.mp hsurvives
    obtain ⟨rfl, hread⟩ := namedMarker_eq_ok hmarker
    obtain ⟨record, m, hm, hclass, href⟩ := (hmarks.checkpoints _).mp href
    simp only [markerReference, Prod.mk.injEq] at href
    obtain ⟨hdigest, hsize, hmanifest⟩ := href
    have hblob : marker.manifestBlob = record.blob := by
      cases hmb : marker.manifestBlob
      cases hrb : record.blob
      simp only [hmb, hrb] at hdigest hsize
      rw [hdigest, hsize]
    have hsamemarker := hgetm (markerName marker.checkpointId)
    rw [if_pos hsurvives] at hsamemarker
    refine ⟨hsamemarker ▸ hcontent, marker, m, rfl, exec_loadCheckpoint hdiscard ?_ ?_ ?_⟩
    · rw [loadCheckpointMarker_congr hsamemarker, hread]
    · rw [hblob, loadManifestBlob_some]
      exact ⟨(hm.keep hkeep).loads, hmanifest.symm⟩
    · rw [← hclass]
      exact congrArg Disclosure.artifactClass hm.disclosure_eq
  · intro name hmem hgone
    obtain ⟨marker, hmarker⟩ := hnamed name hmem
    refine ⟨marker, hmarker, fun record m hm hclass hrefers => hgone ?_⟩
    obtain ⟨hblob, hmanifest⟩ := hrefers
    have href : markerReference marker ∈ live.checkpoints := by
      rw [hmarks.checkpoints]
      exact ⟨record, m, hm, hclass, by rw [markerReference, hblob, hmanifest]⟩
    obtain ⟨content, hcontent⟩ := Dict.mem_iff.mp hmem
    refine Dict.mem_of_get? (v := content) ?_
    rw [hgetm, if_pos (survives_iff.mpr ⟨marker, hmarker, href⟩), hcontent]
  · rw [hremoved]
    apply sortedStrings_pairwise
    exact ((sortedBy_perm _ _).nodup_iff.mpr files.blobs.nodup).filter _
  · intro digest
    rw [hremoved, mem_sortedStrings, List.mem_filter, mem_sortedBy, ← Dict.get?_eq_none_iff, hget,
      Dict.mem_keys]
    by_cases hd : digest ∈ live.digests
    · simp [hd, Dict.get?_eq_none_iff]
    · simp [hd]

omit [MarkerDecoder] in
lemma markLive_congr {record : ArtifactRecord}
    (h : record.mediaType = ARTIFACT_MANIFEST_MEDIA_TYPE →
      store.loadManifestBlob files' record.blob none =
        store.loadManifestBlob files record.blob none)
    (live : LiveArtifacts) :
    store.markLive files' live record = store.markLive files live record := by
  rw [markLive, markLive]
  split
  · rfl
  · next hmedia => rw [h (not_not.mp hmedia)]

/-- The same collection again removes nothing and changes nothing. -/
theorem garbageCollect_again (hpublish : NoPublishName files)
    (h : (store.garbageCollect retained now).exec ⟨files, interruption⟩ = (.ok removed, w')) :
    (store.garbageCollect retained now).exec ⟨w'.files, none⟩ = (.ok [], ⟨w'.files, none⟩) := by
  have hsafe := garbageCollect_safe hpublish h
  obtain ⟨live, hlive, -, hget, hgetm, hdiscard, -⟩ := garbageCollect_reads hpublish h
  have hlive' : store.liveArtifacts w'.files (store.retainedRecords retained now) = .ok live := by
    rw [← hlive, liveArtifacts, liveArtifacts]
    apply foldSteps_congr
    intro record hmem live
    apply markLive_congr
    intro hmedia
    obtain ⟨m, hm, hm'⟩ := hsafe.loads record hmem hmedia
    rw [hm.loads, hm'.loads]
  refine garbageCollect_settled hlive' hdiscard ?_ ?_
  · intro name hmem
    obtain ⟨content, hcontent⟩ := Dict.mem_iff.mp hmem
    have hsurvives : survives files live name = true := by
      by_contra hdead
      rw [hgetm, if_neg hdead] at hcontent
      cases hcontent
    obtain ⟨marker, hmarker, href⟩ := survives_iff.mp hsurvives
    refine ⟨marker, ?_, href⟩
    rw [← hmarker]
    apply namedMarker_congr
    rw [hgetm, if_pos hsurvives]
  · intro digest hmem
    obtain ⟨e, he⟩ := Dict.mem_iff.mp hmem
    by_contra hdead
    rw [hget, if_neg hdead] at he
    cases he

end ContentAddressedStore

/-! ### Every reachable store -/

section Run

lemma isPublishName_markerName (checkpointId : Identifier) :
    isPublishName (markerName checkpointId) = isPublishName checkpointId := by
  rw [isPublishName, isPublishName, Bool.eq_iff_iff, List.isPrefixOf_iff_prefix,
    List.isPrefixOf_iff_prefix, markerName, String.toList_append]
  constructor
  · intro h
    rcases List.prefix_or_prefix_of_prefix h (List.prefix_append _ _) with h' | ⟨rest, hrest⟩
    · exact h'
    · rw [← hrest, List.prefix_append_right_inj] at h
      rcases List.eq_nil_or_concat rest with rfl | ⟨front, last, rfl⟩
      · rw [List.append_nil] at hrest
        exact ⟨[], by rw [List.append_nil, ← hrest]⟩
      · -- what is left of `publish-` ends in its hyphen, and `.json` has none
        have hlast : last = '-' := by
          have hend := congrArg List.getLast? hrest
          rw [List.concat_eq_append, ← List.append_assoc, List.getLast?_concat] at hend
          exact Option.some.inj hend
        have hmem : last ∈ ".json".toList := h.subset (by simp)
        rw [hlast] at hmem
        exact absurd hmem (by decide)
  · exact fun h => h.trans (List.prefix_append _ _)

/-- No checkpoint is committed under an identifier that reads like a temporary file. -/
def StoreOperation.AvoidsPublish : StoreOperation → Prop
  | .commitCheckpoint checkpointId _ _ _ => isPublishName checkpointId = false
  | _ => True

variable [StoreCrypto] [ContentRules] [ManifestDecoder] [MarkerDecoder]
variable {store : ContentAddressedStore}

lemma keeps_noPublishName {operation : StoreOperation} (h : operation.AvoidsPublish) :
    Keeps (fun w => ContentAddressedStore.NoPublishName w.files) (operation.run store) := by
  refine StoreOperation.keeps
    (P := fun _ markers => ∀ name ∈ markers, isPublishName name = false) ?_ ?_ ?_ ?_
  · exact fun _ _ hmarkers name hname => hmarkers name (Dict.mem_filterKeys.mp hname).2
  · exact fun _ _ _ _ hmarkers _ => hmarkers
  · intro _ _ checkpointId content hmarkers hcommits _ name hname
    rcases Dict.mem_insert.mp hname with rfl | hname
    · rw [isPublishName_markerName]
      cases operation with
      | commitCheckpoint checkpointId' committed kind driverDigest =>
        cases hcommits
        exact h
      | _ => exact hcommits.elim
    · exact hmarkers name hname
  · exact fun _ _ _ hmarkers => ⟨fun _ => hmarkers, fun removed name hname =>
      hmarkers name (Dict.mem_erase.mp hname).2⟩

/-- In every run that commits no checkpoint under such an identifier, a collection that returns is
safe, complete and repeatable, and one that cannot read a retained manifest changes nothing. -/
theorem garbageCollect_of_reachable {files : StoreFiles}
    (h : StoreReachable store StoreOperation.AvoidsPublish files)
    (retained : List RetainedArtifact) (now : Datetime) :
    (∀ interruption removed w,
      (store.garbageCollect retained now).exec ⟨files, interruption⟩ = (.ok removed, w) →
        ContentAddressedStore.CollectsSafely store files w.files
            (store.retainedRecords retained now) removed ∧
          (store.garbageCollect retained now).exec ⟨w.files, none⟩ = (.ok [], ⟨w.files, none⟩)) ∧
      ∀ e, store.liveArtifacts files (store.retainedRecords retained now) = .error e →
        ∃ files', (store.garbageCollect retained now).exec ⟨files, none⟩ =
            (.error e, ⟨files', none⟩) ∧
          files'.blobs = files.blobs ∧ files'.markers = files.markers := by
  have hpublish : ContentAddressedStore.NoPublishName files :=
    h.invariant (fun _ hname => absurd hname (Dict.not_mem_empty _)) fun _ => keeps_noPublishName
  refine ⟨fun interruption removed w hexec => ?_, fun e hraised => ?_⟩
  · exact ⟨ContentAddressedStore.garbageCollect_safe hpublish hexec,
      ContentAddressedStore.garbageCollect_again hpublish hexec⟩
  · exact ⟨_, ContentAddressedStore.garbageCollect_raises hraised, rfl,
      hpublish.discardStale_markers⟩

end Run

section Small

local instance collectionCrypto : StoreCrypto := smallCrypto

local instance collectionRules : ContentRules := smallRules

local instance collectionManifests : ManifestDecoder := smallManifests

local instance collectionMarkers : MarkerDecoder := smallMarkers

def collectionStore : ContentAddressedStore := smallStore 9999

/-- The store after a checkpoint was committed. -/
def checkpointFiles (checkpointId : Identifier) : StoreFiles :=
  filesAfter collectionStore (lockOperations checkpointId)

/-- The checkpoint's record, pinned. -/
def pinnedCheckpoint : RetainedArtifact where
  record :=
    { logicalId := "checkpoint", blob := lockCommitted.blob
      mediaType := ARTIFACT_MANIFEST_MEDIA_TYPE, artifactClass := .checkpoint
      sensitivity := .internal, visibility := .participant, redistribution := .restricted }
  recordedAt := 0
  checkpointPinned := true

lemma checkpointFiles_reachable :
    StoreReachable collectionStore StoreOperation.AvoidsPublish (checkpointFiles "lock-1") := by
  apply reachable_filesAfter
  simp only [lockOperations, List.forall_mem_cons, StoreOperation.AvoidsPublish, List.not_mem_nil,
    false_implies, implies_true, and_true, true_and]
  decide

theorem garbageCollect_of_reachable_lock :
    ∃ w : StoreWorld,
      ContentAddressedStore.CollectsSafely collectionStore (checkpointFiles "lock-1") w.files
        [pinnedCheckpoint.record] [] ∧
      (collectionStore.garbageCollect [pinnedCheckpoint] 0).exec ⟨w.files, none⟩ =
        (.ok [], ⟨w.files, none⟩) := by
  have hok : ((collectionStore.garbageCollect [pinnedCheckpoint] 0).exec
      ⟨checkpointFiles "lock-1", none⟩).1 = .ok [] := by decide +kernel
  obtain ⟨w, hexec⟩ := exists_exec_eq hok
  exact ⟨w, (garbageCollect_of_reachable checkpointFiles_reachable [pinnedCheckpoint] 0).1
    none [] w hexec⟩

/-- A pinned checkpoint of an identifier that reads like a temporary file loses its marker. -/
theorem publish_marker_removed :
    StoreReachable collectionStore (fun _ => True) (checkpointFiles "publish-1") ∧
      ContentAddressedStore.namedMarker (checkpointFiles "publish-1") "publish-1.json" =
        .ok (lockMarker "publish-1" (by decide)) ∧
      lockCommitted.blob = pinnedCheckpoint.record.blob ∧
      lockCommitted.semanticDigest = lockManifest.digest ∧
      ((collectionStore.garbageCollect [pinnedCheckpoint] 0).exec
        ⟨checkpointFiles "publish-1", none⟩).1 = .ok [] ∧
      "publish-1.json" ∉ ((collectionStore.garbageCollect [pinnedCheckpoint] 0).exec
        ⟨checkpointFiles "publish-1", none⟩).2.files.markers := by
  refine ⟨reachable_filesAfter fun _ _ => trivial, ?_⟩
  decide +kernel

end Small

end EdaGym
