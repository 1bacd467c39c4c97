import EdaGym.Security.CanaryScan

/-!
# What a canary scan finds

One matcher reads the files of a surface one after the other, and another one the artifacts. The
scan stops when the marker occurs in what one of them has read, and names are never read by it.
-/

namespace EdaGym

open PatternMatch

section Scan

variable {marker : Bytes}

/-! ### Finding the marker -/

/-- There is room in the budget. -/
def Scan.Room (s : Scan) (entries bytes : Nat) : Prop :=
  s.entries + entries ≤ MAX_COLLECTED_ENTRIES ∧ s.bytesRead + bytes ≤ MAX_COLLECTED_BYTES

/-- A step that reads `text`, after a matcher has read `before`, goes on without the marker or
stops with it. -/
def Reads (marker : Bytes) (s : Scan) (before : Bytes) (x : Except CanaryError Scan) (text : Bytes)
    (entries : Nat) : Prop :=
  (∃ s', x = .ok s' ∧ Scanned marker (before ++ text) s'.matched ∧
      s'.entries = s.entries + entries ∧ s'.bytesRead = s.bytesRead + text.length) ∨
    (∃ m, x = .error (.exposure m)) ∧ marker <:+: before ++ text

variable {s : Scan}

lemma Reads.bind {before text text' : Bytes} {x : Except CanaryError Scan}
    {f : Scan → Except CanaryError Scan} {entries entries' : Nat}
    (h : Reads marker s before x text entries)
    (hf : ∀ s', Scanned marker (before ++ text) s'.matched → s'.entries = s.entries + entries →
      s'.bytesRead = s.bytesRead + text.length →
        Reads marker s' (before ++ text) (f s') text' entries') :
    Reads marker s before (x >>= f) (text ++ text') (entries + entries') := by
  rcases h with ⟨s', rfl, hscanned, hentries, hbytes⟩ | ⟨⟨m, rfl⟩, hfound⟩
  · rcases hf s' hscanned hentries hbytes with
      ⟨s'', hx, hscanned', hentries', hbytes'⟩ | ⟨hx, hfound⟩
    · refine Or.inl ⟨s'', hx, by rwa [← List.append_assoc], by omega, ?_⟩
      rw [hbytes', hbytes, List.length_append]
      omega
    · exact Or.inr ⟨hx, by rwa [← List.append_assoc]⟩
  · refine Or.inr ⟨⟨m, rfl⟩, ?_⟩
    rw [← List.append_assoc]
    exact hfound.trans (List.prefix_append _ _).isInfix

lemma reads_evidenceField {before content : Bytes}
    (hscanned : Scanned marker before s.matched) (h : Frameable content) :
    Reads marker s before (evidenceField content s) [] 0 := by
  refine Or.inl ⟨(s.update (bigEndian 8 content.length)).update content, ?_, ?_, rfl, rfl⟩
  · simp only [evidenceField, toBytes8, bind_eq_ok, raiseIf_eq_ok, exists_const, pure_eq_ok]
    exact ⟨_, ⟨Nat.not_le.mpr h, rfl⟩, rfl⟩
  · rwa [List.append_nil]

lemma addEntry_eq_ok {size : Nat} (h : s.Room 1 size) :
    s.addEntry size = .ok { s with entries := s.entries + 1, bytesRead := s.bytesRead + size } := by
  simp only [Scan.addEntry, bind_eq_ok, raiseIf_eq_ok, exists_const, pure_eq_ok]
  exact ⟨Nat.not_lt.mpr h.1, Nat.not_lt.mpr h.2, trivial⟩

variable {before : Bytes}

lemma reads_chunks (hmarker : marker ≠ [])
    (hscanned : Scanned marker before s.matched) (chunks : List Bytes) :
    (∃ s', foldSteps (scanChunk marker) s chunks = .ok s' ∧
        Scanned marker (before ++ chunks.flatten) s'.matched ∧ s'.entries = s.entries ∧
        s'.bytesRead = s.bytesRead) ∨
      (∃ m, foldSteps (scanChunk marker) s chunks = .error (.exposure m)) ∧
        marker <:+: before ++ chunks.flatten := by
  induction chunks generalizing s before with
  | nil => exact Or.inl ⟨s, rfl, by simpa using hscanned, rfl, rfl⟩
  | cons chunk chunks ih =>
    obtain ⟨hgoes, hfinds⟩ :
        (∀ matched, feed marker (prefixTable marker) s.matched chunk = some matched →
          Scanned marker (before ++ chunk) matched) ∧
        (feed marker (prefixTable marker) s.matched chunk = none →
          marker <:+: before ++ chunk) := hscanned.feed hmarker
    rw [List.flatten_cons, ← List.append_assoc]
    cases hfeed : feed marker (prefixTable marker) s.matched chunk with
    | none =>
      refine Or.inr ⟨⟨"synthetic credential marker escaped isolation", ?_⟩,
        (hfinds hfeed).trans (List.prefix_append _ _).isInfix⟩
      rw [foldSteps, scanChunk, hfeed]
      rfl
    | some matched =>
      have hstep : scanChunk marker s chunk = .ok ({ s with matched }.update chunk) := by
        rw [scanChunk, hfeed]
        rfl
      have hcons : foldSteps (scanChunk marker) s (chunk :: chunks) =
          foldSteps (scanChunk marker) ({ s with matched }.update chunk) chunks := by
        rw [foldSteps, hstep]
        rfl
      rw [hcons]
      exact ih (s := { s with matched }.update chunk) (hgoes matched hfeed)

lemma reads_addEntry (hscanned : Scanned marker before s.matched)
    (hroom : s.Room 1 0) : Reads marker s before (s.addEntry 0) [] 1 := by
  refine Or.inl ⟨_, addEntry_eq_ok hroom, ?_, rfl, rfl⟩
  rwa [List.append_nil]

lemma frameable_of_room {entries : Nat} {content : Bytes}
    (h : s.Room entries content.length) : Frameable content := by
  have hbound := h.2
  rw [MAX_COLLECTED_BYTES] at hbound
  rw [Frameable]
  omega

lemma reads_scanContent (hmarker : marker ≠ []) {before content : Bytes}
    (hscanned : Scanned marker before s.matched) (hroom : s.Room 1 content.length) :
    Reads marker s before (scanContent marker content s) content 1 := by
  have hsize : toBytes8 content.length = .ok (bigEndian 8 content.length) := by
    simp only [toBytes8, bind_eq_ok, raiseIf_eq_ok, exists_const, pure_eq_ok]
    exact ⟨Nat.not_le.mpr (frameable_of_room hroom), trivial⟩
  rw [scanContent, addEntry_eq_ok hroom, ok_bind, hsize, ok_bind]
  have hchunks := reads_chunks hmarker (s := Scan.update
    { s with entries := s.entries + 1, bytesRead := s.bytesRead + content.length }
    (bigEndian 8 content.length)) hscanned (chunksOf CHUNK_BYTES content)
  rw [flatten_chunksOf] at hchunks
  rcases hchunks with ⟨s', hx, hscanned', hentries, hbytes⟩ | hfound
  · exact Or.inl ⟨s', hx, hscanned', hentries, hbytes⟩
  · exact Or.inr hfound

/-- Steps that read one text each read them one after the other. -/
lemma reads_foldSteps {α : Type} {step : Scan → α → Except CanaryError Scan} {text : α → Bytes}
    {as : List α} (hstep : ∀ a ∈ as, ∀ s before, Scanned marker before s.matched →
      s.Room 1 (text a).length → Reads marker s before (step s a) (text a) 1)
    (hscanned : Scanned marker before s.matched)
    (hroom : s.Room as.length (as.flatMap text).length) :
    Reads marker s before (foldSteps step s as) (as.flatMap text) as.length := by
  induction as generalizing s before with
  | nil => exact Or.inl ⟨s, rfl, by simpa using hscanned, rfl, rfl⟩
  | cons a as ih =>
    rw [List.forall_mem_cons] at hstep
    rw [List.flatMap_cons, List.length_append, List.length_cons] at hroom
    obtain ⟨hentries, hbytes⟩ := hroom
    have hfirst := hstep.1 s before hscanned ⟨by omega, by omega⟩
    have hsum : (a :: as).length = 1 + as.length := by rw [List.length_cons, Nat.add_comm]
    rw [foldSteps, hsum, List.flatMap_cons]
    refine hfirst.bind fun s' hscanned' hentries' hbytes' => ?_
    exact ih hstep.2 hscanned' ⟨by omega, by omega⟩

/-! ### Surfaces -/

def itemText : List String × TreeItem Bytes → Bytes
  | (_, .file content) => content
  | _ => []

/-- What stands below a root, the root itself if it is a file. -/
def OpenedSurface.items (source : OpenedSurface) : List (List String × TreeItem Bytes) :=
  match source.root with
  | .directory entries => entries.walk []
  | node => [([], node.item)]

/-- What the matcher of a surface reads. -/
def OpenedSurface.text (source : OpenedSurface) : Bytes := source.items.flatMap itemText

/-- There are only files and directories, and their paths have lengths that can be hashed. -/
def OpenedSurface.Plain (source : OpenedSurface) : Prop :=
  ∀ x ∈ source.items, x.2 ≠ .special ∧ Frameable (utf8 (asPosix x.1))

lemma reads_scanItem (hmarker : marker ≠ [])
    {x : List String × TreeItem Bytes} (hx : x.2 ≠ .special ∧ Frameable (utf8 (asPosix x.1)))
    (hscanned : Scanned marker before s.matched) (hroom : s.Room 1 (itemText x).length) :
    Reads marker s before (scanItem marker s x) (itemText x) 1 := by
  obtain ⟨relative, item⟩ := x
  have hpath := reads_evidenceField hscanned hx.2
  cases item with
  | directory =>
    have h : Reads marker s before (scanItem marker s (relative, .directory)) ([] ++ ([] ++ []))
        (0 + (1 + 0)) := by
      refine hpath.bind fun s₁ hscanned₁ hentries₁ hbytes₁ => ?_
      have hroom₁ : s₁.Room 1 0 := by
        rw [Scan.Room, hentries₁, hbytes₁]
        exact hroom
      refine (reads_addEntry hscanned₁ hroom₁).bind fun s₂ hscanned₂ _ _ => ?_
      exact reads_evidenceField hscanned₂ (by decide)
    exact h
  | file content =>
    have h : Reads marker s before (scanItem marker s (relative, .file content))
        ([] ++ ([] ++ content)) (0 + (0 + 1)) := by
      refine hpath.bind fun s₁ hscanned₁ hentries₁ hbytes₁ => ?_
      refine (reads_evidenceField hscanned₁ (by decide)).bind fun s₂ hscanned₂ hentries₂ hbytes₂ =>
        ?_
      rw [List.append_nil] at hscanned₂ ⊢
      refine reads_scanContent hmarker hscanned₂ ?_
      rw [Scan.Room, hentries₂, hbytes₂, hentries₁, hbytes₁]
      exact hroom
    exact h
  | special => exact absurd rfl hx.1

theorem reads_scanOpenedSource (hmarker : marker ≠ []) {source : OpenedSurface}
    (hplain : source.Plain)
    (hscanned : Scanned marker before s.matched)
    (hroom : s.Room source.items.length source.text.length) :
    Reads marker s before (scanOpenedSource marker source.root s) source.text
      source.items.length := by
  have hitems : ∀ x ∈ source.items, x.2 ≠ .special ∧ Frameable (utf8 (asPosix x.1)) := hplain
  rw [OpenedSurface.text, OpenedSurface.items] at *
  cases hroot : source.root with
  | directory entries =>
    rw [hroot] at hitems hroom
    exact reads_foldSteps (fun x hx s before => reads_scanItem hmarker (hitems x hx)) hscanned hroom
  | file content =>
    have h : Reads marker s before (scanOpenedSource marker (.file content) s) ([] ++ content)
        (0 + 1) := by
      refine (reads_evidenceField hscanned (by decide)).bind fun s₁ hscanned₁ hentries₁ hbytes₁ =>
        ?_
      rw [List.append_nil] at hscanned₁ ⊢
      refine reads_scanContent hmarker hscanned₁ ?_
      rw [hroot] at hroom
      rw [Scan.Room, hentries₁, hbytes₁]
      simpa [TreeNode.item, itemText, Scan.Room] using hroom
    simpa [TreeNode.item, itemText] using h
  | special =>
    rw [hroot] at hitems
    exact absurd rfl (hitems _ (List.mem_singleton_self _)).1

end Scan

/-! ### Artifacts and sources -/

section Collector

variable [StoreCrypto] {marker : Bytes}

/-- The plaintext of a stored artifact. -/
def ContentAddressedStore.plaintext (store : ContentAddressedStore) (files : StoreFiles)
    (reference : BlobRef) : Bytes :=
  match store.verifiedPlaintext files reference reference.sizeBytes with
  | .ok content => content
  | .error _ => []

lemma ContentAddressedStore.plaintext_of_verified {ε : Type} {f : StoreError → ε}
    {store : ContentAddressedStore} {files : StoreFiles} {reference : BlobRef} {content : Bytes}
    (h : (store.verifiedPlaintext files reference reference.sizeBytes).mapError f = .ok content) :
    store.plaintext files reference = content := by
  rw [Except.mapError_eq_ok_iff] at h
  rw [plaintext, h]

/-- What the matcher of the artifacts reads. -/
def IsolationSurfaceCollector.artifactText (collector : IsolationSurfaceCollector) : Bytes :=
  (blobReferences collector.storeFiles).flatMap
    (collector.artifactStore.plaintext collector.storeFiles)

/-- Every artifact can be read. -/
def IsolationSurfaceCollector.Verified (collector : IsolationSurfaceCollector) : Prop :=
  ∀ reference ∈ blobReferences collector.storeFiles, Frameable (utf8 reference.digest) ∧
    collector.artifactStore.verifiedPlaintext collector.storeFiles reference reference.sizeBytes =
      .ok (collector.artifactStore.plaintext collector.storeFiles reference)

lemma reads_scanArtifact (hmarker : marker ≠ []) {collector : IsolationSurfaceCollector}
    (hverified : collector.Verified) {reference : BlobRef}
    (hreference : reference ∈ blobReferences collector.storeFiles) {s : Scan} {before : Bytes}
    (hscanned : Scanned marker before s.matched)
    (hroom : s.Room 1 (collector.artifactStore.plaintext collector.storeFiles reference).length) :
    Reads marker s before
      (scanArtifact marker collector.artifactStore collector.storeFiles s reference)
      (collector.artifactStore.plaintext collector.storeFiles reference) 1 := by
  obtain ⟨hdigest, hread⟩ := hverified reference hreference
  rw [scanArtifact, hread]
  have h : Reads marker s before
      (evidenceField (utf8 reference.digest) s >>= fun s => scanContent marker
        (collector.artifactStore.plaintext collector.storeFiles reference) s)
      ([] ++ collector.artifactStore.plaintext collector.storeFiles reference) (0 + 1) := by
    refine (reads_evidenceField hscanned hdigest).bind fun s₁ hscanned₁ hentries₁ hbytes₁ => ?_
    rw [List.append_nil] at hscanned₁ ⊢
    refine reads_scanContent hmarker hscanned₁ ?_
    rw [Scan.Room, hentries₁, hbytes₁]
    exact hroom
  exact h

lemma reads_scanArtifactPlaintext (hmarker : marker ≠ []) {collector : IsolationSurfaceCollector}
    (hverified : collector.Verified) {s : Scan} {before : Bytes}
    (hscanned : Scanned marker before s.matched)
    (hroom : s.Room (blobReferences collector.storeFiles).length collector.artifactText.length) :
    Reads marker s before
      (scanArtifactPlaintext marker collector.artifactStore collector.storeFiles s)
      collector.artifactText (blobReferences collector.storeFiles).length := by
  have h : Reads marker s before
      (scanArtifactPlaintext marker collector.artifactStore collector.storeFiles s)
      ([] ++ collector.artifactText) (0 + (blobReferences collector.storeFiles).length) := by
    refine (reads_evidenceField hscanned (by decide)).bind fun s₁ hscanned₁ hentries₁ hbytes₁ => ?_
    rw [List.append_nil] at hscanned₁ ⊢
    refine reads_foldSteps (fun r hr s before => reads_scanArtifact hmarker hverified hr)
      hscanned₁ ?_
    rw [Scan.Room, hentries₁, hbytes₁]
    exact hroom
  rwa [List.nil_append, Nat.zero_add] at h

/-- A step that reads texts, each with a matcher of its own. -/
def Scans (marker : Bytes) (s : Scan) (x : Except CanaryError Scan) (texts : List Bytes)
    (entries : Nat) : Prop :=
  (∃ s', x = .ok s' ∧ (∀ text ∈ texts, ¬ marker <:+: text) ∧ s'.entries = s.entries + entries ∧
      s'.bytesRead = s.bytesRead + texts.flatten.length) ∨
    (∃ m, x = .error (.exposure m)) ∧ ∃ text ∈ texts, marker <:+: text

section

omit [StoreCrypto]

lemma Scans.bind {s : Scan} {x : Except CanaryError Scan} {f : Scan → Except CanaryError Scan}
    {texts texts' : List Bytes} {entries entries' : Nat} (h : Scans marker s x texts entries)
    (hf : ∀ s', s'.entries = s.entries + entries →
      s'.bytesRead = s.bytesRead + texts.flatten.length → Scans marker s' (f s') texts' entries') :
    Scans marker s (x >>= f) (texts ++ texts') (entries + entries') := by
  rcases h with ⟨s', rfl, hfree, hentries, hbytes⟩ | ⟨⟨m, rfl⟩, text, htext, hfound⟩
  · rcases hf s' hentries hbytes with
      ⟨s'', hx, hfree', hentries', hbytes'⟩ | ⟨hx, text, htext, hfound⟩
    · refine Or.inl ⟨s'', hx, ?_, by omega, ?_⟩
      · intro text htext
        exact (List.mem_append.mp htext).elim (hfree text) (hfree' text)
      · rw [hbytes', hbytes, List.flatten_append, List.length_append]
        omega
    · exact Or.inr ⟨hx, text, List.mem_append_right _ htext, hfound⟩
  · exact Or.inr ⟨⟨m, rfl⟩, text, List.mem_append_left _ htext, hfound⟩

lemma scans_evidenceField {s : Scan} {content : Bytes} (h : Frameable content) :
    Scans marker s (evidenceField content s) [] 0 := by
  refine Or.inl ⟨(s.update (bigEndian 8 content.length)).update content, ?_,
    fun text htext => (nomatch htext), rfl, rfl⟩
  simp only [evidenceField, toBytes8, bind_eq_ok, raiseIf_eq_ok, exists_const, pure_eq_ok]
  exact ⟨_, ⟨Nat.not_le.mpr h, rfl⟩, rfl⟩

/-- A matcher that starts on a text. -/
lemma Reads.scans {s : Scan} {x : Except CanaryError Scan} {text : Bytes} {entries : Nat}
    (h : Reads marker { s with matched := 0 } [] x text entries) :
    Scans marker s x [text] entries := by
  rcases h with ⟨s', hx, hscanned, hentries, hbytes⟩ | ⟨hx, hfound⟩
  · refine Or.inl ⟨s', hx, fun text' htext' => ?_, hentries, by simpa using hbytes⟩
    rw [List.mem_singleton.mp htext']
    simpa using hscanned.absent
  · exact Or.inr ⟨hx, text, List.mem_singleton_self _, by simpa using hfound⟩

end

namespace IsolationSurfaceCollector

variable (collector : IsolationSurfaceCollector)

/-- What is read of a surface, each text by one matcher. -/
def texts (source : OpenedSurface) : List Bytes :=
  source.text :: if source.surface = .artifactStore then [collector.artifactText] else []

def entryCount (source : OpenedSurface) : Nat :=
  source.items.length +
    if source.surface = .artifactStore then (blobReferences collector.storeFiles).length else 0

/-- The surface is the one that the manifest names. -/
def Identified (source : OpenedSurface) : Prop :=
  ∃ d, surfaceIdentity source = .ok d ∧ collector.manifest.identityOf source.surface = some d ∧
    Frameable (utf8 d)

/-- The collector can be used with the marker, and the surfaces are stable and within the limits. -/
structure Collectable (marker : Bytes) : Prop where
  available : collector.unavailable = false
  bound : syntheticPreflightCanaryBindingDigest marker = .ok collector.canaryLaunchBindingDigest
  digest : Frameable (utf8 collector.manifest.digest)
  identified : ∀ source ∈ collector.sources, collector.Identified source
  plain : ∀ source ∈ collector.sources, source.Plain
  verified : collector.Verified
  entries : (collector.sources.map collector.entryCount).sum ≤ MAX_COLLECTED_ENTRIES
  bytes : (collector.sources.flatMap collector.texts).flatten.length ≤ MAX_COLLECTED_BYTES

variable {collector}

lemma scans_collectSource (hmarker : marker ≠ []) {source : OpenedSurface}
    (hidentified : collector.Identified source) (hplain : source.Plain)
    (hverified : collector.Verified) {s : Scan}
    (hroom : s.Room (collector.entryCount source) (collector.texts source).flatten.length) :
    Scans marker s (collectSource marker collector s source) (collector.texts source)
      (collector.entryCount source) := by
  obtain ⟨d, hidentity, hnamed, hframe⟩ := hidentified
  have hsurface : Frameable (utf8 source.surface.value) := by cases source.surface <;> decide
  rw [texts, entryCount] at *
  have h : Scans marker s (collectSource marker collector s source)
      ([] ++ ([] ++ ([source.text] ++
        if source.surface = .artifactStore then [collector.artifactText] else [])))
      (0 + (0 + (source.items.length +
        if source.surface = .artifactStore then (blobReferences collector.storeFiles).length
        else 0))) := by
    rw [collectSource]
    refine (scans_evidenceField hsurface).bind fun s₁ hentries₁ hbytes₁ => ?_
    have hsame : raiseIf (collector.manifest.identityOf source.surface ≠ some d)
        (CanaryError.protocol "runtime surface identity differs from its manifest") = .ok ⟨⟩ :=
      raiseIf_eq_ok.mpr (not_not.mpr hnamed)
    rw [hidentity, ok_bind, hsame, ok_bind]
    refine (scans_evidenceField hframe).bind fun s₂ hentries₂ hbytes₂ => ?_
    have hstart : s₂.entries = s.entries ∧ s₂.bytesRead = s.bytesRead := by
      rw [hentries₂, hbytes₂, hentries₁, hbytes₁]
      exact ⟨rfl, rfl⟩
    obtain ⟨hentries, hbytes⟩ := hroom
    rw [List.flatten_cons, List.length_append] at hbytes
    refine Scans.bind (Reads.scans (reads_scanOpenedSource hmarker hplain (scanned_nil hmarker)
      ⟨?_, ?_⟩)) fun s₃ hentries₃ hbytes₃ => ?_
    · rw [hstart.1]
      omega
    · rw [hstart.2]
      omega
    · rw [List.flatten_cons, List.flatten_nil, List.append_nil, hstart.2] at hbytes₃
      rw [hstart.1] at hentries₃
      split_ifs at hentries hbytes ⊢ with hstore
      · rw [List.flatten_cons, List.flatten_nil, List.append_nil] at hbytes
        refine Reads.scans (reads_scanArtifactPlaintext hmarker hverified (scanned_nil hmarker)
          ⟨?_, ?_⟩)
        · rw [hentries₃]
          omega
        · rw [hbytes₃]
          omega
      · exact Or.inl ⟨s₃, rfl, fun text htext => (nomatch htext), rfl, rfl⟩
  simpa using h

lemma scans_foldSteps (hmarker : marker ≠ []) (hverified : collector.Verified)
    {sources : List OpenedSurface}
    (hidentified : ∀ source ∈ sources, collector.Identified source)
    (hplain : ∀ source ∈ sources, source.Plain) {s : Scan}
    (hroom : s.Room (sources.map collector.entryCount).sum
      (sources.flatMap collector.texts).flatten.length) :
    Scans marker s (foldSteps (collectSource marker collector) s sources)
      (sources.flatMap collector.texts) (sources.map collector.entryCount).sum := by
  induction sources generalizing s with
  | nil => exact Or.inl ⟨s, rfl, fun text htext => (nomatch htext), rfl, rfl⟩
  | cons source sources ih =>
    rw [List.forall_mem_cons] at hidentified hplain
    rw [List.map_cons, List.sum_cons, List.flatMap_cons, List.flatten_append, List.length_append]
      at hroom
    obtain ⟨hentries, hbytes⟩ := hroom
    rw [foldSteps, List.map_cons, List.sum_cons, List.flatMap_cons]
    refine (scans_collectSource hmarker hidentified.1 hplain.1 hverified
      ⟨by omega, by omega⟩).bind fun s' hentries' hbytes' => ?_
    exact ih hidentified.2 hplain.2 ⟨by omega, by omega⟩

lemma Collectable.marker_ne_nil (h : collector.Collectable marker) : marker ≠ [] := by
  have hbound := h.bound
  simp only [syntheticPreflightCanaryBindingDigest, bind_eq_ok, raiseIf_eq_ok, exists_const,
    not_or] at hbound
  exact hbound.1.1

/-- The texts that are searched, in the order of the search. -/
def searched (collector : IsolationSurfaceCollector) : List Bytes :=
  collector.sources.flatMap collector.texts

/-- A collection within its limits returns or exposes; it exposes when a searched text has the
marker. -/
theorem collect_spec (h : collector.Collectable marker) :
    (∃ digest, collect marker collector = .ok digest) ∧
        (∀ text ∈ collector.searched, ¬ marker <:+: text) ∨
      (∃ m, collect marker collector = .error (.exposure m)) ∧
        ∃ text ∈ collector.searched, marker <:+: text := by
  have hmarker := h.marker_ne_nil
  have hfree : raiseIf (collector.unavailable = true)
      (CanaryError.protocol "isolation surface collector is no longer available") = .ok ⟨⟩ :=
    raiseIf_eq_ok.mpr (by simp [h.available])
  have hbound : raiseIf (collector.canaryLaunchBindingDigest ≠ collector.canaryLaunchBindingDigest)
      (CanaryError.protocol "preflight launcher did not bind this canary challenge") = .ok ⟨⟩ :=
    raiseIf_eq_ok.mpr (not_not.mpr rfl)
  rw [collect, hfree, ok_bind, h.bound, ok_bind, hbound, ok_bind]
  have hscans : Scans marker { evidence := EVIDENCE_DOMAIN }
      (evidenceField (utf8 collector.manifest.digest) { evidence := EVIDENCE_DOMAIN } >>=
        fun s => foldSteps (collectSource marker collector) s collector.sources)
      ([] ++ collector.searched) (0 + (collector.sources.map collector.entryCount).sum) := by
    refine (scans_evidenceField h.digest).bind fun s hentries hbytes => ?_
    refine scans_foldSteps hmarker h.verified h.identified h.plain ⟨?_, ?_⟩
    · rw [hentries, Nat.zero_add]
      exact h.entries
    · rw [hbytes, List.flatten_nil, List.length_nil, Nat.zero_add]
      exact h.bytes
  rw [← bind_assoc]
  rcases hscans with ⟨s, hx, hclean, -⟩ | ⟨⟨m, hx⟩, hfound⟩
  · exact Or.inl ⟨⟨sha256 s.evidence, by rw [hx]; rfl⟩, hclean⟩
  · exact Or.inr ⟨⟨m, by rw [hx]; rfl⟩, hfound⟩

end IsolationSurfaceCollector

end Collector

end EdaGym
