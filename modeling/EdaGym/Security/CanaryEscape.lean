import EdaGym.Artifacts.StoreRun
import EdaGym.Security.CanaryEvidence

/-!
# When the canary scan finds every escape

A marker escapes in the contents of a file, in an artifact or in the path of an entry. The scan
looks at what a matcher reads, which are the contents of a surface joined together.
-/

namespace EdaGym

open PatternMatch

/-- The paths of the entries. A surface that is a file has none. -/
def OpenedSurface.paths (source : OpenedSurface) : List String :=
  match source.root with
  | .directory entries => (entries.walk []).map fun x => asPosix x.1
  | _ => []

/-! ### What any scan can say -/

section Searches

variable {marker : Bytes}

/-- A step that searches `text` after `before`, if it returns or exposes the marker at all. -/
def Searches (marker before : Bytes) (x : Except CanaryError Scan) (text : Bytes) : Prop :=
  (∀ s', x = .ok s' → Scanned marker (before ++ text) s'.matched) ∧
    ∀ m, x = .error (.exposure m) → marker <:+: before ++ text

/-- A step that exposes nothing. -/
def Quiet {α : Type} (x : Except CanaryError α) : Prop := ∀ m, x ≠ .error (.exposure m)

lemma Quiet.bind {α β : Type} {x : Except CanaryError α} {f : α → Except CanaryError β}
    (hx : Quiet x) (hf : ∀ a, x = .ok a → Quiet (f a)) : Quiet (x >>= f) := by
  intro m h
  cases x with
  | ok a => exact hf a rfl m h
  | error e =>
    cases h
    exact hx m rfl

lemma quiet_raiseIf {p : Prop} [Decidable p] {e : CanaryError} (h : ∀ m, e ≠ .exposure m) :
    Quiet (raiseIf p e) := by
  intro m hraise
  rw [raiseIf] at hraise
  split_ifs at hraise
  exact h m (Except.error.inj hraise)

lemma quiet_orRaise {α : Type} {x : Option α} {e : CanaryError} (h : ∀ m, e ≠ .exposure m) :
    Quiet (orRaise x e) := by
  intro m hraise
  cases x with
  | none => exact h m (Except.error.inj hraise)
  | some a => cases hraise

lemma quiet_mapError {α : Type} (x : Except StoreError α) :
    Quiet (x.mapError CanaryError.store) := by
  intro m h
  cases x with
  | ok a => cases h
  | error e => cases h

lemma quiet_toBytes8 (n : Nat) : Quiet (toBytes8 n) :=
  (quiet_raiseIf (by simp)).bind fun _ _ _ h => nomatch h

/-- A silent step comes before what searches. -/
lemma Quiet.searches {α : Type} {before text : Bytes} {x : Except CanaryError α}
    {f : α → Except CanaryError Scan} (hx : Quiet x)
    (hf : ∀ a, x = .ok a → Searches marker before (f a) text) :
    Searches marker before (x >>= f) text := by
  refine ⟨fun s' h => ?_, fun m h => ?_⟩
  · obtain ⟨a, ha, hs'⟩ := bind_eq_ok.mp h
    exact (hf a ha).1 s' hs'
  · cases x with
    | ok a => exact (hf a rfl).2 m h
    | error e =>
      cases h
      exact absurd rfl (hx m)

lemma quiet_evidenceField (content : Bytes) (s : Scan) : Quiet (evidenceField content s) :=
  (quiet_toBytes8 _).bind fun _ _ _ h => nomatch h

lemma matched_evidenceField {content : Bytes} {s s' : Scan} (h : evidenceField content s = .ok s') :
    s'.matched = s.matched := by
  simp only [evidenceField, bind_eq_ok, pure_eq_ok] at h
  obtain ⟨_, -, rfl⟩ := h
  rfl

lemma quiet_addEntry (size : Nat) (s : Scan) : Quiet (s.addEntry size) :=
  (quiet_raiseIf (by simp)).bind fun _ _ =>
    (quiet_raiseIf (by simp)).bind fun _ _ _ h => nomatch h

lemma matched_addEntry {size : Nat} {s s' : Scan} (h : s.addEntry size = .ok s') :
    s'.matched = s.matched := by
  simp only [Scan.addEntry, bind_eq_ok, raiseIf_eq_ok, exists_const, pure_eq_ok] at h
  obtain ⟨-, -, rfl⟩ := h
  rfl

lemma searches_scanContent (hmarker : marker ≠ []) {s : Scan} {before : Bytes}
    (hscanned : Scanned marker before s.matched) (content : Bytes) :
    Searches marker before (scanContent marker content s) content := by
  refine (quiet_addEntry _ s).searches fun s₁ hentry => ?_
  refine (quiet_toBytes8 _).searches fun size _ => ?_
  rw [← matched_addEntry hentry] at hscanned
  have hchunks := reads_chunks hmarker (s := s₁.update size) hscanned (chunksOf CHUNK_BYTES content)
  rw [flatten_chunksOf] at hchunks
  rcases hchunks with ⟨s', hx, hscanned', -⟩ | ⟨⟨m, hx⟩, hfound⟩
  · refine ⟨fun s'' h => ?_, fun m h => ?_⟩
    · rw [← Except.ok.inj (hx.symm.trans h)]
      exact hscanned'
    · exact nomatch hx.symm.trans h
  · exact ⟨fun s'' h => (nomatch hx.symm.trans h), fun _ _ => hfound⟩

/-- Steps that search one text each search them one after the other. -/
lemma searches_foldSteps {α : Type} {step : Scan → α → Except CanaryError Scan} {text : α → Bytes}
    {as : List α} (hstep : ∀ s before a, Scanned marker before s.matched →
      Searches marker before (step s a) (text a))
    {s : Scan} {before : Bytes} (hscanned : Scanned marker before s.matched) :
    Searches marker before (foldSteps step s as) (as.flatMap text) := by
  induction as generalizing s before with
  | nil =>
    refine ⟨fun s' h => ?_, fun m h => by cases h⟩
    rw [← Except.ok.inj h]
    simpa using hscanned
  | cons a as ih =>
    obtain ⟨hgoes, hfinds⟩ := hstep s before a hscanned
    rw [foldSteps, List.flatMap_cons]
    cases hx : step s a with
    | error e =>
      refine ⟨fun s' h => (by cases h), fun m h => ?_⟩
      rw [← List.append_assoc]
      exact (hfinds m (hx.trans h)).trans (List.prefix_append _ _).isInfix
    | ok s₁ =>
      have hrest := ih (hgoes s₁ hx)
      rw [Searches, List.append_assoc] at hrest
      exact hrest

lemma searches_scanItem (hmarker : marker ≠ []) (s : Scan) (before : Bytes)
    (x : List String × TreeItem Bytes) (hscanned : Scanned marker before s.matched) :
    Searches marker before (scanItem marker s x) (itemText x) := by
  obtain ⟨relative, item⟩ := x
  cases item with
  | directory =>
    refine (quiet_evidenceField _ s).searches fun s₁ h₁ => ?_
    refine (quiet_addEntry 0 s₁).searches fun s₂ h₂ => ?_
    refine ⟨fun s₃ h₃ => ?_, fun m h => absurd h (quiet_evidenceField _ s₂ m)⟩
    rw [matched_evidenceField h₃, matched_addEntry h₂, matched_evidenceField h₁]
    simpa [itemText] using hscanned
  | file content =>
    refine (quiet_evidenceField _ s).searches fun s₁ h₁ => ?_
    refine (quiet_evidenceField _ s₁).searches fun s₂ h₂ => ?_
    refine searches_scanContent hmarker ?_ content
    rwa [matched_evidenceField h₂, matched_evidenceField h₁]
  | special => exact ⟨fun s' h => (by cases h), fun m h => by cases h⟩

lemma searches_scanOpenedSource (hmarker : marker ≠ []) (source : OpenedSurface) {s : Scan}
    {before : Bytes} (hscanned : Scanned marker before s.matched) :
    Searches marker before (scanOpenedSource marker source.root s) source.text := by
  rw [OpenedSurface.text, OpenedSurface.items]
  cases source.root with
  | directory entries => exact searches_foldSteps (searches_scanItem hmarker) hscanned
  | file content =>
    have h : Searches marker before (scanOpenedSource marker (.file content) s) content := by
      refine (quiet_evidenceField _ s).searches fun s₁ h₁ => ?_
      refine searches_scanContent hmarker ?_ content
      rwa [matched_evidenceField h₁]
    simpa [TreeNode.item, itemText] using h
  | special => exact ⟨fun s' h => (by cases h), fun m h => by cases h⟩

variable [StoreCrypto] {collector : IsolationSurfaceCollector}

lemma searches_scanArtifactPlaintext (hmarker : marker ≠ []) {s : Scan} {before : Bytes}
    (hscanned : Scanned marker before s.matched) :
    Searches marker before
      (scanArtifactPlaintext marker collector.artifactStore collector.storeFiles s)
      collector.artifactText := by
  refine (quiet_evidenceField _ s).searches fun s₁ h₁ => ?_
  refine searches_foldSteps (fun s before r hscanned => ?_) (matched_evidenceField h₁ ▸ hscanned)
  refine (quiet_mapError _).searches fun content hcontent => ?_
  refine (quiet_evidenceField _ s).searches fun s₂ h₂ => ?_
  rw [ContentAddressedStore.plaintext_of_verified hcontent]
  exact searches_scanContent hmarker (matched_evidenceField h₂ ▸ hscanned) content

lemma quiet_surfaceIdentity (source : OpenedSurface) : Quiet (surfaceIdentity source) :=
  Quiet.bind ((quiet_raiseIf (by simp)).bind fun _ _ _ h => nomatch h) fun _ _ _ h => nomatch h

/-- A step that searches texts, each with a matcher of its own. -/
def SearchesAll {α : Type} (marker : Bytes) (x : Except CanaryError α) (texts : List Bytes) :
    Prop :=
  (∀ s', x = .ok s' → ∀ text ∈ texts, ¬ marker <:+: text) ∧
    ∀ m, x = .error (.exposure m) → ∃ text ∈ texts, marker <:+: text

section

omit [StoreCrypto]

lemma Searches.all {x : Except CanaryError Scan} {text : Bytes} (h : Searches marker [] x text) :
    SearchesAll marker x [text] := by
  refine ⟨fun s' hx text' htext' => ?_, fun m hx => ⟨text, List.mem_singleton_self _, h.2 m hx⟩⟩
  rw [List.mem_singleton.mp htext']
  exact (h.1 s' hx).absent

lemma SearchesAll.bind {α β : Type} {x : Except CanaryError α} {f : α → Except CanaryError β}
    {texts texts' : List Bytes} (h : SearchesAll marker x texts)
    (hf : ∀ s, x = .ok s → SearchesAll marker (f s) texts') :
    SearchesAll marker (x >>= f) (texts ++ texts') := by
  cases x with
  | ok s =>
    refine ⟨fun s' hx text htext => ?_, fun m hx => ?_⟩
    · exact (List.mem_append.mp htext).elim (h.1 s rfl text) ((hf s rfl).1 s' hx text)
    · obtain ⟨text, htext, hfound⟩ := (hf s rfl).2 m hx
      exact ⟨text, List.mem_append_right _ htext, hfound⟩
  | error e =>
    refine ⟨fun s' hx => (nomatch hx), fun m hx => ?_⟩
    cases hx
    obtain ⟨text, htext, hfound⟩ := h.2 m rfl
    exact ⟨text, List.mem_append_left _ htext, hfound⟩

lemma Quiet.searchesAll {α β : Type} {x : Except CanaryError α} {f : α → Except CanaryError β}
    {texts : List Bytes} (hx : Quiet x) (hf : ∀ a, x = .ok a → SearchesAll marker (f a) texts) :
    SearchesAll marker (x >>= f) texts := by
  cases x with
  | ok a => exact hf a rfl
  | error e =>
    refine ⟨fun s' h => (nomatch h), fun m h => ?_⟩
    cases h
    exact absurd rfl (hx m)

lemma searchesAll_pure {α : Type} (a : α) : SearchesAll marker (pure a) [] :=
  ⟨fun _ _ _ htext => (nomatch htext), fun _ h => nomatch h⟩

end

namespace IsolationSurfaceCollector

lemma searchesAll_collectSource (hmarker : marker ≠ []) (s : Scan) (source : OpenedSurface) :
    SearchesAll marker (collectSource marker collector s source) (collector.texts source) := by
  refine (quiet_evidenceField _ s).searchesAll fun s₁ _ => ?_
  refine (quiet_surfaceIdentity source).searchesAll fun d _ => ?_
  refine (quiet_raiseIf (by simp)).searchesAll fun _ _ => ?_
  refine (quiet_evidenceField _ s₁).searchesAll fun s₂ _ => ?_
  have hroot := searches_scanOpenedSource hmarker source (s := { s₂ with matched := 0 })
    (scanned_nil hmarker)
  rw [texts, ← List.singleton_append]
  refine hroot.all.bind fun s₃ _ => ?_
  split_ifs with hstore
  · have hartifacts : Searches marker [] (scanArtifactPlaintext marker collector.artifactStore
        collector.storeFiles { s₃ with matched := 0 }) collector.artifactText :=
      searches_scanArtifactPlaintext hmarker (scanned_nil hmarker)
    exact hartifacts.all
  · exact searchesAll_pure s₃

lemma searchesAll_foldSteps (hmarker : marker ≠ []) (s : Scan) (sources : List OpenedSurface) :
    SearchesAll marker (foldSteps (collectSource marker collector) s sources)
      (sources.flatMap collector.texts) := by
  induction sources generalizing s with
  | nil => exact searchesAll_pure s
  | cons source sources ih =>
    exact (searchesAll_collectSource hmarker s source).bind fun s' _ => ih s'

/-- What a collection says about the texts that it searches, whether it goes through or not. -/
theorem searchesAll_collect (collector : IsolationSurfaceCollector) :
    SearchesAll marker (collect marker collector) collector.searched := by
  refine (quiet_raiseIf (by simp)).searchesAll fun _ _ => ?_
  refine Quiet.searchesAll ?_ fun binding hbinding => ?_
  · exact (quiet_raiseIf (by simp)).bind fun _ _ =>
      (quiet_orRaise (by simp)).bind fun _ _ _ h => nomatch h
  · have hmarker : marker ≠ [] := by
      obtain ⟨_, hbounded, -⟩ := bind_eq_ok.mp hbinding
      exact fun hnil => raiseIf_eq_ok.mp hbounded (Or.inl hnil)
    refine (quiet_raiseIf (by simp)).searchesAll fun _ _ => ?_
    refine (quiet_evidenceField _ _).searchesAll fun s _ => ?_
    have hsources : SearchesAll marker
        (foldSteps (collectSource marker collector) s collector.sources) collector.searched :=
      searchesAll_foldSteps hmarker s collector.sources
    have h := hsources.bind fun s' _ => searchesAll_pure (sha256 s'.evidence)
    rwa [List.append_nil] at h

/-! ### Escapes -/

/-- The marker stands in one file. -/
def InFile (marker : Bytes) (collector : IsolationSurfaceCollector) : Prop :=
  ∃ source ∈ collector.sources, ∃ x ∈ source.items, marker <:+: itemText x

/-- The marker stands in one artifact. -/
def InArtifact (marker : Bytes) (collector : IsolationSurfaceCollector) : Prop :=
  ∃ reference ∈ blobReferences collector.storeFiles,
    marker <:+: collector.artifactStore.plaintext collector.storeFiles reference

/-- The marker stands in the path of an entry. -/
def InPath (marker : Bytes) (collector : IsolationSurfaceCollector) : Prop :=
  ∃ source ∈ collector.sources, ∃ path ∈ source.paths, marker <:+: utf8 path

/-- The marker stands in the contents of a surface, or of the artifacts, read one after the
other. -/
def InJoinedContents (marker : Bytes) (collector : IsolationSurfaceCollector) : Prop :=
  ∃ text ∈ collector.searched, marker <:+: text

/-- A collection that returns has found no escape where there is one, and one that exposes the
marker has found one. -/
def FindsEscapes (marker : Bytes) (collector : IsolationSurfaceCollector) : Prop :=
  (∀ digest, collect marker collector = .ok digest →
    ¬ InFile marker collector ∧ ¬ InArtifact marker collector ∧ ¬ InPath marker collector) ∧
  ∀ m, collect marker collector = .error (.exposure m) →
    InFile marker collector ∨ InArtifact marker collector ∨ InPath marker collector

lemma mem_searched {source : OpenedSurface} (hsource : source ∈ collector.sources) :
    source.text ∈ collector.searched :=
  List.mem_flatMap.mpr ⟨source, hsource, List.mem_cons_self⟩

lemma artifactText_mem_searched : collector.artifactText ∈ collector.searched := by
  have hmem : IsolationSurface.artifactStore ∈ collector.sources.map OpenedSurface.surface := by
    rw [collector.sources_complete]
    decide
  obtain ⟨source, hsource, hsurface⟩ := List.mem_map.mp hmem
  refine List.mem_flatMap.mpr ⟨source, hsource, ?_⟩
  rw [texts, if_pos hsurface]
  exact List.mem_cons_of_mem _ (List.mem_singleton_self _)

omit [StoreCrypto] in
lemma infix_flatMap {α : Type} {text : α → Bytes} {as : List α} {a : α} (ha : a ∈ as) :
    text a <:+: as.flatMap text := by
  obtain ⟨l, r, rfl⟩ := List.append_of_mem ha
  exact ⟨l.flatMap text, r.flatMap text, by simp⟩

lemma InFile.joined (h : InFile marker collector) : InJoinedContents marker collector := by
  obtain ⟨source, hsource, x, hx, hfound⟩ := h
  exact ⟨source.text, mem_searched hsource, hfound.trans (infix_flatMap hx)⟩

lemma InArtifact.joined (h : InArtifact marker collector) : InJoinedContents marker collector := by
  obtain ⟨reference, hreference, hfound⟩ := h
  exact ⟨collector.artifactText, artifactText_mem_searched, hfound.trans (infix_flatMap hreference)⟩

/-- A path with the marker has to show in joined contents too, and what shows in joined contents
has to stand in one place. -/
def Aligned (marker : Bytes) (collector : IsolationSurfaceCollector) : Prop :=
  (InPath marker collector → InJoinedContents marker collector) ∧
    (InJoinedContents marker collector →
      InFile marker collector ∨ InArtifact marker collector ∨ InPath marker collector)

theorem Aligned.findsEscapes (h : Aligned marker collector) : FindsEscapes marker collector := by
  obtain ⟨hpath, hjoined⟩ := h
  obtain ⟨hclean, hexposed⟩ :
      SearchesAll marker (collect marker collector) collector.searched :=
    searchesAll_collect collector
  refine ⟨fun digest hcollect => ?_, fun m hcollect => hjoined (hexposed m hcollect)⟩
  have habsent : ¬ InJoinedContents marker collector := by
    rintro ⟨text, htext, hfound⟩
    exact hclean digest hcollect text htext hfound
  exact ⟨fun hin => habsent hin.joined, fun hin => habsent hin.joined,
    fun hin => habsent (hpath hin)⟩

theorem FindsEscapes.aligned (h : FindsEscapes marker collector)
    (hcollectable : collector.Collectable marker) : Aligned marker collector := by
  rcases collect_spec hcollectable with ⟨⟨digest, hcollect⟩, hclean⟩ | ⟨⟨m, hcollect⟩, hfound⟩
  · have habsent : ¬ InJoinedContents marker collector := by
      rintro ⟨text, htext, hin⟩
      exact hclean text htext hin
    obtain ⟨-, -, hpath⟩ := h.1 digest hcollect
    exact ⟨fun hin => absurd hin hpath, fun hin => absurd hin habsent⟩
  · exact ⟨fun _ => hfound, fun _ => h.2 m hcollect⟩

/-- The scan finds every escape and nothing else when the collector is aligned, and within the
limits only then. One evidence digest stands for one manifest and one content. -/
theorem findsEscapes_iff_aligned [InjectiveDigests] (marker : Bytes)
    (collector : IsolationSurfaceCollector) :
    (Aligned marker collector → FindsEscapes marker collector) ∧
    (collector.Collectable marker → (FindsEscapes marker collector ↔ Aligned marker collector)) ∧
    ∀ marker' collector' digest, collect marker collector = .ok digest →
      collect marker' collector' = .ok digest →
      collector.manifest = collector'.manifest ∧ collector.scanned = collector'.scanned :=
  ⟨Aligned.findsEscapes,
    fun hcollectable => ⟨fun h => h.aligned hcollectable, Aligned.findsEscapes⟩,
    fun _ _ _ h h' => scanned_eq h h'⟩

end IsolationSurfaceCollector

end Searches

/-! ### A collector of two files -/

section Small

/-- A table of digests. Contents that are not in it have digests that are not in it. -/
def tabulatedDigest (table : List (Bytes × Digest)) (content : Bytes) : Digest :=
  match table.find? fun p => p.1 = content with
  | some p => p.2
  | none => "sha256:x" ++ String.ofList (content.map fun b => Char.ofNat b.toNat)

def surfaceDigest : IsolationSurface → Digest
  | .participantWorkspace =>
    "sha256:8b0aa44f4528cdb2dc8fc526fbea78e5eaca734e0e77904076942b799d8850de"
  | .toolProcess =>
    "sha256:d749697fa84a8e24b98dfbfe42aff2d8f16e668e09cd3ebad64ebd210953f75c"
  | .edaProcess =>
    "sha256:f632b01b2f337e74b74c3e2ccd224c6d76fe66c394bee915e097fa615f12e23f"
  | .verifier =>
    "sha256:91778b36710bb2a9cf2891b85e66de88ef010a59dbf6a17839bad788000c4f0b"
  | .console =>
    "sha256:084f9eedf8917c95c3db1bce67cc555ea163ce99498787e0f7d666c6d1be89cd"
  | .journal =>
    "sha256:d156839387ad462d2f147673551c1f6df8e6d745b0ff74a70095258ca15707f9"
  | .artifactStore =>
    "sha256:1085693d85be8ed84008bc2bb1bceda36aacbae0308ca0b9ee279856903899aa"
  | .participantExport =>
    "sha256:dbb50b78397199ca78e57a2fc563bf18bb13529313d23315df8c0c6fb01787eb"

def surfaceInode : IsolationSurface → Nat
  | .participantWorkspace => 1
  | .toolProcess => 2
  | .edaProcess => 3
  | .verifier => 4
  | .console => 5
  | .journal => 6
  | .artifactStore => 7
  | .participantExport => 8

def smallIdentity (surface : IsolationSurface) : FileIdentity where
  device := 1
  inode := surfaceInode surface
  mode := 0o040700
  links := 2
  owner := 1000
  size := 4096
  modifiedNs := 0
  changedNs := 0

def smallSurface (surface : IsolationSurface) (entries : Directory String Bytes)
    (hordered : entries.Ordered)
    (hnames : ∀ x ∈ (TreeNode.directory entries).walk [], ∀ name ∈ x.1, IsPart name) :
    OpenedSurface where
  surface := surface
  identity := smallIdentity surface
  root := .directory entries
  root_kind := ⟨fun _ => ⟨entries, rfl⟩, fun _ => by cases surface <;> decide⟩
  ordered := hordered
  names_valid := hnames

def smallDigest : Digest := "sha256:" ++ String.ofList (List.replicate 64 '0')

def smallManifest : RuntimeSurfaceManifest where
  preflightRunId := smallDigest
  preflightRecordDigest := smallDigest
  runBindingDigest := smallDigest
  binding :=
    { campaignDigest := smallDigest, campaignScheduleDigest := smallDigest
      scheduledTrialDigest := smallDigest, providerProfileDigest := smallDigest
      providerConfigDigest := smallDigest, budgetBindingDigest := smallDigest
      taskReleaseDigest := smallDigest, environmentSpecDigest := smallDigest
      sessionSpecDigest := smallDigest, harnessDigest := smallDigest
      harnessSchemaDigest := smallDigest, executorDigest := smallDigest
      exportPolicyDigest := smallDigest }
  executorReceiptDigest := smallDigest
  launcherReceiptDigest := smallDigest
  artifactClosureReceiptDigest := smallDigest
  artifactStoreIdentityDigest := smallDigest
  surfaces := REQUIRED_ISOLATION_SURFACES.map fun surface => ⟨surface, surfaceDigest surface⟩

def smallMarker : Bytes := utf8 "canary-7d41"

def smallBindingDigest : Digest :=
  "sha256:36afff4ccabd6793948ff6abe149895637ea6e803b9c7019767bfde087498de1"

def smallManifestDigest : Digest :=
  "sha256:974568af789c08ec0788315f96db0a623fcf9f0a9d2e42832dbde0b516359e86"

/-- What is hashed of empty surfaces and of what stands on the console. -/
def smallEvidence (console : List Bytes) : Bytes :=
  EVIDENCE_DOMAIN ++ frame (utf8 smallManifestDigest) ++
    REQUIRED_ISOLATION_SURFACES.flatMap fun surface =>
      (utf8 surface.value :: utf8 (surfaceDigest surface) ::
        ((if surface = .console then console else []) ++
          if surface = .artifactStore then [utf8 "verified-artifact-plaintext"]
            else [])).flatMap frame

def identityContent (surface : IsolationSurface) : Bytes :=
  utf8 "edagym" ++ [0] ++ utf8 "runtime-surface-descriptor-identity-v1" ++ [0] ++
    (frame (utf8 surface.value) ++ frame ((smallIdentity surface).values.flatMap (bigEndian 8)))

def manifestContent : Bytes :=
  utf8 "edagym" ++ [0] ++ utf8 "runtime-surface-manifest-v1" ++ [0] ++
    utf8 smallManifest.json.render

def bindingContent : Bytes :=
  utf8 "edagym" ++ [0] ++ utf8 "synthetic-preflight-canary-binding-v1" ++ [0] ++
    utf8 (CanonicalJson.render (.obj [("environment_name", .str CANARY_ENVIRONMENT_NAME),
      ("marker", .str "canary-7d41")]))

/-- SHA-256 of what is hashed below. -/
def smallTable : List (Bytes × Digest) :=
  (manifestContent, smallManifestDigest) ::
  (bindingContent, smallBindingDigest) ::
  (smallEvidence [utf8 "canary-7d41.log", utf8 "file", []],
    "sha256:452da3b61b4fbe0b00d67614a08d9f30c740f3ae824f682318cb3e3cdabbafc0") ::
  REQUIRED_ISOLATION_SURFACES.map fun surface => (identityContent surface, surfaceDigest surface)

lemma char_toNat_ofNat : ∀ n < 256, (Char.ofNat n).toNat = n := by
  decide +kernel

lemma tabulatedDigest_injective {table : List (Bytes × Digest)}
    (hnodup : (table.map Prod.snd).Nodup)
    (hother : ∀ p ∈ table, ¬ utf8 "sha256:x" <+: utf8 p.2) :
    Function.Injective (tabulatedDigest table) := by
  have hcases : ∀ content, (content, tabulatedDigest table content) ∈ table ∨
      tabulatedDigest table content =
        "sha256:x" ++ String.ofList (content.map fun b => Char.ofNat b.toNat) := by
    intro content
    rw [tabulatedDigest]
    cases hfind : table.find? fun p => p.1 = content with
    | none => exact Or.inr rfl
    | some p =>
      have hp : p.1 = content := by simpa using List.find?_some hfind
      exact Or.inl (hp ▸ List.mem_of_find?_eq_some hfind)
  have hfar : ∀ content content' : Bytes, (content, tabulatedDigest table content) ∈ table →
      tabulatedDigest table content ≠
        "sha256:x" ++ String.ofList (content'.map fun b => Char.ofNat b.toNat) := by
    intro content content' hmem heq
    refine hother _ hmem ?_
    rw [heq, utf8_append]
    exact List.prefix_append _ _
  intro content content' h
  rcases hcases content with hmem | hlong <;> rcases hcases content' with hmem' | hlong'
  · rw [← h] at hmem'
    exact congrArg Prod.fst (List.inj_on_of_nodup_map hnodup hmem hmem' rfl)
  · exact absurd (h.trans hlong') (hfar _ _ hmem)
  · exact absurd (h.symm.trans hlong) (hfar _ _ hmem')
  · rw [hlong, hlong', String.append_right_inj, String.ofList_inj] at h
    refine List.map_injective_iff.mpr (fun b b' hb => ?_) h
    have hnat := congrArg Char.toNat hb
    rw [char_toNat_ofNat _ b.toNat_lt, char_toNat_ofNat _ b'.toNat_lt] at hnat
    exact UInt8.toNat_inj.mp hnat

lemma tabulatedDigest_named {table : List (Bytes × Digest)}
    (htable : ∀ p ∈ table, utf8 "sha256:" <+: utf8 p.2) (content : Bytes) :
    utf8 "sha256:" <+: utf8 (tabulatedDigest table content) := by
  rw [tabulatedDigest]
  cases hfind : table.find? fun p => p.1 = content with
  | none =>
    have hsplit : "sha256:x" = "sha256:" ++ "x" := by decide
    rw [hsplit, String.append_assoc, utf8_append]
    exact List.prefix_append _ _
  | some p => exact htable p (List.mem_of_find?_eq_some hfind)

@[reducible] def canaryCrypto : StoreCrypto where
  sha256 := tabulatedDigest smallTable
  encrypt _ _ _ plaintext := (plaintext, [])
  decrypt _ _ _ _ payload := some payload

local instance smallCanaryCrypto : StoreCrypto := canaryCrypto

local instance smallInjective : InjectiveDigests where
  sha256_injective := tabulatedDigest_injective (by decide +kernel) (by decide +kernel)
  sha256_named := tabulatedDigest_named (by decide +kernel)

/-- Every surface is empty but for what stands on the console and in the artifact store. -/
def smallCollector (console : Directory String Bytes) (hordered : console.Ordered)
    (hnames : ∀ x ∈ (TreeNode.directory console).walk [], ∀ name ∈ x.1, IsPart name)
    (storeFiles : StoreFiles) : IsolationSurfaceCollector where
  manifest := smallManifest
  canaryLaunchBindingDigest := smallBindingDigest
  sources := REQUIRED_ISOLATION_SURFACES.map fun surface =>
    if surface = .console then smallSurface surface console hordered hnames
    else smallSurface surface .empty trivial (by decide)
  artifactStore := smallStore 9999
  storeFiles := storeFiles
  sources_complete := rfl

/-- An artifact of four bytes. -/
def keptArtifact : StoreFiles where
  blobs := Dict.ofList [("sha256:xlock", {
    encrypted := false, nonce := List.replicate 12 0, tag := List.replicate 16 0
    payload := utf8 "lock" })]

/-- The marker stands in a file on the console. -/
def loggedCollector : IsolationSurfaceCollector :=
  smallCollector (.cons "run.log" (.file (utf8 "# canary-7d41")) .empty)
    ⟨by decide, trivial, trivial⟩
    (by decide) keptArtifact

/-- On the console stands an empty file that is named after the marker. -/
def namedCollector : IsolationSurfaceCollector :=
  smallCollector (.cons "canary-7d41.log" (.file []) .empty) ⟨by decide, trivial, trivial⟩
    (by decide) {}

lemma tabulatedDigest_cons_self (content : Bytes) (d : Digest) (table : List (Bytes × Digest)) :
    tabulatedDigest ((content, d) :: table) content = d := by
  simp [tabulatedDigest]

lemma smallManifest_digest : smallManifest.digest = smallManifestDigest := by
  rw [RuntimeSurfaceManifest.digest, canonicalDigest, ← manifestContent]
  exact tabulatedDigest_cons_self _ _ _

lemma surfaceIdentity_smallSurface {surface : IsolationSurface} {entries : Directory String Bytes}
    {hordered : entries.Ordered}
    {hnames : ∀ x ∈ (TreeNode.directory entries).walk [], ∀ name ∈ x.1, IsPart name} :
    surfaceIdentity (smallSurface surface entries hordered hnames) =
      .ok (surfaceDigest surface) := by
  have hsame : surfaceIdentity (smallSurface surface entries hordered hnames) =
      surfaceIdentity (smallSurface surface .empty trivial (by decide)) := rfl
  rw [hsame]
  cases surface <;> decide +kernel

section Console

variable {console : Directory String Bytes} {hordered : console.Ordered}
  {hnames : ∀ x ∈ (TreeNode.directory console).walk [], ∀ name ∈ x.1, IsPart name}
  {storeFiles : StoreFiles}

/-- A source of the small collector is a small surface, empty or the console. -/
lemma exists_smallSurface {source : OpenedSurface}
    (h : source ∈ (smallCollector console hordered hnames storeFiles).sources) :
    ∃ surface entries hordered' hnames',
      source = smallSurface surface entries hordered' hnames' ∧
        (entries = .empty ∨ entries = console) := by
  obtain ⟨surface, -, rfl⟩ := List.mem_map.mp h
  split_ifs with hconsole
  · exact ⟨surface, console, hordered, hnames, rfl, Or.inr rfl⟩
  · exact ⟨surface, .empty, trivial, by decide, rfl, Or.inl rfl⟩

lemma smallCollector_collectable
    (hplain : ∀ x ∈ console.walk [], x.2 ≠ .special ∧ Frameable (utf8 (asPosix x.1)))
    (hverified : (smallCollector console hordered hnames storeFiles).Verified)
    (hentries : ((smallCollector console hordered hnames storeFiles).sources.map
      (smallCollector console hordered hnames storeFiles).entryCount).sum ≤ MAX_COLLECTED_ENTRIES)
    (hbytes : ((smallCollector console hordered hnames storeFiles).sources.flatMap
      (smallCollector console hordered hnames storeFiles).texts).flatten.length ≤
        MAX_COLLECTED_BYTES) :
    (smallCollector console hordered hnames storeFiles).Collectable smallMarker where
  available := rfl
  bound := by
    have hbinding : syntheticPreflightCanaryBindingDigest smallMarker = .ok smallBindingDigest := by
      decide +kernel
    exact hbinding
  digest := by
    change Frameable (utf8 smallManifest.digest)
    rw [smallManifest_digest]
    decide +kernel
  identified source hsource := by
    obtain ⟨surface, entries, hordered', hnames', rfl, -⟩ := exists_smallSurface hsource
    refine ⟨surfaceDigest surface, surfaceIdentity_smallSurface, ?_⟩
    have hmanifest : ∀ surface, smallManifest.identityOf surface = some (surfaceDigest surface) ∧
        Frameable (utf8 (surfaceDigest surface)) := by
      intro surface
      cases surface <;> decide +kernel
    exact hmanifest surface
  plain source hsource := by
    obtain ⟨surface, entries, hordered', hnames', rfl, rfl | rfl⟩ := exists_smallSurface hsource
    · exact fun x hx => nomatch hx
    · exact hplain
  verified := hverified
  entries := hentries
  bytes := hbytes

end Console

lemma loggedCollector_collectable : loggedCollector.Collectable smallMarker := by
  refine smallCollector_collectable (by decide +kernel) ?_ (by decide +kernel) (by decide +kernel)
  intro reference hreference
  have hreferences : blobReferences keptArtifact = [⟨"sha256:xlock", 4⟩] := by decide +kernel
  obtain rfl := List.mem_singleton.mp (hreferences ▸ hreference)
  exact ⟨by decide +kernel, by decide +kernel⟩

lemma namedCollector_collectable : namedCollector.Collectable smallMarker :=
  smallCollector_collectable (by decide +kernel) (fun reference hreference => nomatch hreference)
    (by decide +kernel) (by decide +kernel)

/-- There are no contents to search. -/
lemma not_inJoinedContents {collector : IsolationSurfaceCollector}
    (h : ∀ text ∈ collector.searched, text = []) :
    ¬ IsolationSurfaceCollector.InJoinedContents smallMarker collector := by
  rintro ⟨text, htext, hfound⟩
  rw [h text htext, List.infix_nil] at hfound
  exact absurd hfound (by decide)

theorem findsEscapes_loggedCollector :
    loggedCollector.Collectable smallMarker ∧
      IsolationSurfaceCollector.InFile smallMarker loggedCollector ∧
      IsolationSurfaceCollector.FindsEscapes smallMarker loggedCollector := by
  have hpath : ¬ IsolationSurfaceCollector.InPath smallMarker loggedCollector := by
    unfold IsolationSurfaceCollector.InPath
    decide +kernel
  have hfile : IsolationSurfaceCollector.InFile smallMarker loggedCollector := by
    unfold IsolationSurfaceCollector.InFile
    decide +kernel
  exact ⟨loggedCollector_collectable, hfile,
    ((IsolationSurfaceCollector.findsEscapes_iff_aligned smallMarker loggedCollector).2.1
      loggedCollector_collectable).mpr ⟨fun hin => absurd hin hpath, fun _ => Or.inl hfile⟩⟩

/-- The marker stands in the name of a file, and the collection returns. -/
theorem namedCollector_misses :
    (∃ digest, collect smallMarker namedCollector = .ok digest) ∧
      IsolationSurfaceCollector.InPath smallMarker namedCollector ∧
      ¬ IsolationSurfaceCollector.FindsEscapes smallMarker namedCollector := by
  have hpath : IsolationSurfaceCollector.InPath smallMarker namedCollector := by
    unfold IsolationSurfaceCollector.InPath
    decide +kernel
  have hjoined : ¬ IsolationSurfaceCollector.InJoinedContents smallMarker namedCollector :=
    not_inJoinedContents (by decide +kernel)
  rcases IsolationSurfaceCollector.collect_spec namedCollector_collectable with
    ⟨⟨digest, hcollect⟩, -⟩ | ⟨-, hfound⟩
  · refine ⟨⟨digest, hcollect⟩, hpath, fun h => ?_⟩
    obtain ⟨-, -, hmissed⟩ := h.1 digest hcollect
    exact hmissed hpath
  · exact absurd hfound hjoined

end Small

end EdaGym
