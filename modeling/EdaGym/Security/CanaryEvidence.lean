import EdaGym.Security.CanaryCoverage

/-!
# What the evidence of a canary scan binds

All that is hashed comes in frames, so that two collections with one evidence digest have hashed
the same fields. A path is told from the header of the next surface by the field after it.
-/

namespace EdaGym

open PatternMatch

/-! ### What is hashed -/

/-- If a step returns, it has hashed the fields. -/
def Hashes (s : Scan) (x : Except CanaryError Scan) (fields : List Bytes) : Prop :=
  ∀ s', x = .ok s' → s'.evidence = s.evidence ++ fields.flatMap frame ∧ ∀ f ∈ fields, Frameable f

lemma Hashes.bind {s : Scan} {x : Except CanaryError Scan} {f : Scan → Except CanaryError Scan}
    {fields fields' : List Bytes} (h : Hashes s x fields)
    (hf : ∀ s', x = .ok s' → Hashes s' (f s') fields') :
    Hashes s (x >>= f) (fields ++ fields') := by
  intro s'' hx
  obtain ⟨s', hx, hs''⟩ := bind_eq_ok.mp hx
  obtain ⟨hevidence, hframes⟩ := h s' hx
  obtain ⟨hevidence', hframes'⟩ := hf s' hx s'' hs''
  refine ⟨?_, fun f hmem => (List.mem_append.mp hmem).elim (hframes f) (hframes' f)⟩
  rw [hevidence', hevidence, List.flatMap_append, List.append_assoc]

lemma hashes_evidenceField (s : Scan) (content : Bytes) :
    Hashes s (evidenceField content s) [content] := by
  intro s' h
  simp only [evidenceField, toBytes8, bind_eq_ok, raiseIf_eq_ok, exists_const, pure_eq_ok] at h
  obtain ⟨_, ⟨hsize, rfl⟩, rfl⟩ := h
  refine ⟨by simp [Scan.update, frame], fun f hf => ?_⟩
  rw [List.mem_singleton.mp hf]
  exact Nat.not_le.mp hsize

lemma hashes_addEntry (s : Scan) (size : Nat) : Hashes s (s.addEntry size) [] := by
  intro s' h
  simp only [Scan.addEntry, bind_eq_ok, raiseIf_eq_ok, exists_const, pure_eq_ok] at h
  obtain ⟨-, -, rfl⟩ := h
  exact ⟨by simp, fun f hf => (nomatch hf)⟩

lemma hashes_foldSteps {α : Type} {step : Scan → α → Except CanaryError Scan}
    {fields : α → List Bytes} (hstep : ∀ s a, Hashes s (step s a) (fields a)) (s : Scan)
    (as : List α) : Hashes s (foldSteps step s as) (as.flatMap fields) := by
  induction as generalizing s with
  | nil =>
    rintro s' h
    cases h
    exact ⟨by simp, fun f hf => (nomatch hf)⟩
  | cons a as ih =>
    rw [foldSteps, List.flatMap_cons]
    exact (hstep s a).bind fun s' _ => ih s'

section Marker

variable (marker : Bytes)

lemma evidence_foldSteps_scanChunk {s s' : Scan} {chunks : List Bytes}
    (h : foldSteps (scanChunk marker) s chunks = .ok s') :
    s'.evidence = s.evidence ++ chunks.flatten := by
  induction chunks generalizing s with
  | nil =>
    cases h
    simp
  | cons chunk chunks ih =>
    obtain ⟨s₁, hchunk, hrest⟩ := foldSteps_cons_eq_ok.mp h
    simp only [scanChunk, bind_eq_ok, orRaise_eq_ok, pure_eq_ok] at hchunk
    obtain ⟨matched, -, rfl⟩ := hchunk
    rw [ih hrest]
    simp [Scan.update]

lemma hashes_scanContent (s : Scan) (content : Bytes) :
    Hashes s (scanContent marker content s) [content] := by
  intro s' h
  simp only [scanContent, toBytes8, bind_eq_ok, raiseIf_eq_ok, exists_const, pure_eq_ok] at h
  obtain ⟨s₁, hentry, _, ⟨hsize, rfl⟩, hchunks⟩ := h
  obtain ⟨hevidence, -⟩ := hashes_addEntry s _ s₁ hentry
  refine ⟨?_, fun f hf => ?_⟩
  · rw [evidence_foldSteps_scanChunk marker hchunks, flatten_chunksOf, Scan.update, hevidence]
    simp [frame]
  · rw [List.mem_singleton.mp hf]
    exact Nat.not_le.mp hsize

def itemFields : List String × TreeItem Bytes → List Bytes
  | (relative, .directory) => [utf8 (asPosix relative), utf8 "directory"]
  | (relative, .file content) => [utf8 (asPosix relative), utf8 "file", content]
  | (_, .special) => []

lemma hashes_scanItem (s : Scan) (x : List String × TreeItem Bytes) :
    Hashes s (scanItem marker s x) (itemFields x) := by
  obtain ⟨relative, item⟩ := x
  cases item with
  | directory =>
    have h : Hashes s (scanItem marker s (relative, .directory))
        ([utf8 (asPosix relative)] ++ ([] ++ [utf8 "directory"])) :=
      (hashes_evidenceField s _).bind fun s₁ _ => (hashes_addEntry s₁ 0).bind fun s₂ _ =>
        hashes_evidenceField s₂ _
    exact h
  | file content =>
    have h : Hashes s (scanItem marker s (relative, .file content))
        ([utf8 (asPosix relative)] ++ ([utf8 "file"] ++ [content])) :=
      (hashes_evidenceField s _).bind fun s₁ _ => (hashes_evidenceField s₁ _).bind fun s₂ _ =>
        hashes_scanContent marker s₂ content
    exact h
  | special => exact fun s' h => nomatch h

def rootFields : TreeNode String Bytes → List Bytes
  | .directory entries => (entries.walk []).flatMap itemFields
  | .file content => [utf8 "file", content]
  | .special => []

lemma hashes_scanOpenedSource (s : Scan) (root : TreeNode String Bytes) :
    Hashes s (scanOpenedSource marker root s) (rootFields root) := by
  cases root with
  | directory entries => exact hashes_foldSteps (hashes_scanItem marker) s _
  | file content =>
    have h : Hashes s (scanOpenedSource marker (.file content) s) ([utf8 "file"] ++ [content]) :=
      (hashes_evidenceField s _).bind fun s₁ _ => hashes_scanContent marker s₁ content
    exact h
  | special => exact fun s' h => nomatch h

variable [StoreCrypto]

namespace IsolationSurfaceCollector

variable (collector : IsolationSurfaceCollector)

/-- The artifacts that are scanned, with their plaintexts. -/
def artifacts : List (Digest × Bytes) :=
  (blobReferences collector.storeFiles).map fun r =>
    (r.digest, collector.artifactStore.plaintext collector.storeFiles r)

def artifactFields : List Bytes :=
  utf8 "verified-artifact-plaintext" ::
    collector.artifacts.flatMap fun p => [utf8 p.1, p.2]

def sourceFields (source : OpenedSurface) : List Bytes :=
  utf8 source.surface.value ::
    utf8 ((collector.manifest.identityOf source.surface).getD "") ::
      (rootFields source.root ++
        if source.surface = .artifactStore then collector.artifactFields else [])

lemma hashes_scanArtifact (s : Scan) (r : BlobRef) :
    Hashes s (scanArtifact marker collector.artifactStore collector.storeFiles s r)
      [utf8 r.digest, collector.artifactStore.plaintext collector.storeFiles r] := by
  intro s' h
  obtain ⟨content, hcontent, h⟩ := bind_eq_ok.mp h
  rw [ContentAddressedStore.plaintext_of_verified hcontent]
  have hhashes : Hashes s (evidenceField (utf8 r.digest) s >>= scanContent marker content)
      ([utf8 r.digest] ++ [content]) :=
    (hashes_evidenceField s _).bind fun s₁ _ => hashes_scanContent marker s₁ content
  exact hhashes s' h

lemma hashes_scanArtifactPlaintext (s : Scan) :
    Hashes s (scanArtifactPlaintext marker collector.artifactStore collector.storeFiles s)
      collector.artifactFields := by
  have h : Hashes s (scanArtifactPlaintext marker collector.artifactStore collector.storeFiles s)
      ([utf8 "verified-artifact-plaintext"] ++ (blobReferences collector.storeFiles).flatMap
        fun r => [utf8 r.digest, collector.artifactStore.plaintext collector.storeFiles r]) :=
    (hashes_evidenceField s _).bind fun s₁ _ =>
      hashes_foldSteps (hashes_scanArtifact marker collector) s₁ _
  rw [artifactFields, artifacts, List.flatMap_map]
  exact h

lemma hashes_collectSource (s : Scan) (source : OpenedSurface) :
    Hashes s (collectSource marker collector s source) (collector.sourceFields source) := by
  intro s' hx
  simp only [collectSource, bind_eq_ok, raiseIf_eq_ok, exists_const, not_not] at hx
  obtain ⟨s₁, hsurface, d, hidentity, hnamed, s₂, hd, s₃, hroot, hrest⟩ := hx
  have htail : Hashes s₃ (if source.surface = .artifactStore then scanArtifactPlaintext marker
      collector.artifactStore collector.storeFiles { s₃ with matched := 0 } else pure s₃)
      (if source.surface = .artifactStore then collector.artifactFields else []) := by
    split_ifs with hstore
    · exact hashes_scanArtifactPlaintext marker collector { s₃ with matched := 0 }
    · rintro s'' h
      cases h
      exact ⟨by simp, fun f hf => absurd hf List.not_mem_nil⟩
  obtain ⟨hevidence₁, hframes₁⟩ := hashes_evidenceField s _ s₁ hsurface
  obtain ⟨hevidence₂, hframes₂⟩ := hashes_evidenceField s₁ _ s₂ hd
  obtain ⟨hevidence₃, hframes₃⟩ := hashes_scanOpenedSource marker _ source.root s₃ hroot
  obtain ⟨hevidence, hframes⟩ := htail s' hrest
  rw [sourceFields, hnamed, Option.getD_some]
  refine ⟨?_, ?_⟩
  · rw [hevidence, hevidence₃, hevidence₂, hevidence₁]
    simp [List.append_assoc]
  · simp only [List.forall_mem_cons, List.forall_mem_append]
    exact ⟨hframes₁ _ (List.mem_singleton_self _), hframes₂ _ (List.mem_singleton_self _), hframes₃,
      hframes⟩

/-- All that a collection hashes after the domain. -/
def fields : List Bytes :=
  utf8 collector.manifest.digest :: collector.sources.flatMap collector.sourceFields

variable {marker collector}

theorem collect_eq_ok {digest : Digest} (h : collect marker collector = .ok digest) :
    digest = sha256 (EVIDENCE_DOMAIN ++ collector.fields.flatMap frame) ∧
      ∀ f ∈ collector.fields, Frameable f := by
  simp only [collect, bind_eq_ok, raiseIf_eq_ok, exists_const, pure_eq_ok] at h
  obtain ⟨-, _, -, -, s₁, hmanifest, s₂, hsources, rfl⟩ := h
  obtain ⟨hevidence₁, hframes₁⟩ := hashes_evidenceField _ _ s₁ hmanifest
  obtain ⟨hevidence₂, hframes₂⟩ :=
    hashes_foldSteps (hashes_collectSource marker collector) s₁ _ s₂ hsources
  refine ⟨?_, ?_⟩
  · rw [hevidence₂, hevidence₁, fields]
    simp [List.append_assoc]
  · rw [fields, List.forall_mem_cons]
    exact ⟨hframes₁ _ (List.mem_singleton_self _), hframes₂⟩

end IsolationSurfaceCollector

end Marker

/-! ### Telling the fields apart -/

/-- SHA-256 as it is relied on: no two contents have one digest, and a digest says what it is. -/
class InjectiveDigests [StoreCrypto] : Prop where
  sha256_injective : Function.Injective (sha256 : Bytes → Digest)
  sha256_named : ∀ content, utf8 "sha256:" <+: utf8 (sha256 content)

/-- No item of a directory comes next: what follows the first field is not the kind of one. -/
def EndsItems (rest : List Bytes) : Prop :=
  rest[1]? ≠ some (utf8 "directory") ∧ rest[1]? ≠ some (utf8 "file")

/-- No artifact comes next. -/
def EndsArtifacts (rest : List Bytes) : Prop :=
  ∀ f, rest.head? = some f → ¬ utf8 "sha256:" <+: f

/-- Items as a scan goes through them. -/
def GoodItems (items : List (List String × TreeItem Bytes)) : Prop :=
  ∀ x ∈ items, x.2 ≠ .special ∧ ∀ name ∈ x.1, IsPart name

lemma path_inj {p q : List String} (hp : ∀ name ∈ p, IsPart name) (hq : ∀ name ∈ q, IsPart name)
    (h : utf8 (asPosix p) = utf8 (asPosix q)) : p = q := by
  rw [← posixParts_asPosix hp, ← posixParts_asPosix hq, utf8_inj h]

lemma itemFields_second {x : List String × TreeItem Bytes} (h : x.2 ≠ .special)
    {rest : List Bytes} : ¬ EndsItems (itemFields x ++ rest) := by
  obtain ⟨relative, item⟩ := x
  rintro ⟨hdirectory, hfile⟩
  cases item with
  | directory => exact hdirectory rfl
  | file content => exact hfile rfl
  | special => exact h rfl

variable {r r' : List Bytes}

lemma itemFields_append_inj {x y : List String × TreeItem Bytes}
    (hx : x.2 ≠ .special ∧ ∀ name ∈ x.1, IsPart name)
    (hy : y.2 ≠ .special ∧ ∀ name ∈ y.1, IsPart name)
    (h : itemFields x ++ r = itemFields y ++ r') : x = y ∧ r = r' := by
  obtain ⟨p, item⟩ := x
  obtain ⟨q, item'⟩ := y
  cases item with
  | directory =>
    cases item' with
    | directory =>
      simp only [itemFields, List.cons_append, List.nil_append, List.cons.injEq, true_and] at h
      obtain rfl : p = q := path_inj hx.2 hy.2 h.1
      exact ⟨rfl, h.2⟩
    | file content =>
      simp only [itemFields, List.cons_append, List.cons.injEq] at h
      exact absurd h.2.1 (by decide)
    | special => exact absurd rfl hy.1
  | file content =>
    cases item' with
    | directory =>
      simp only [itemFields, List.cons_append, List.cons.injEq] at h
      exact absurd h.2.1 (by decide)
    | file content' =>
      simp only [itemFields, List.cons_append, List.nil_append, List.cons.injEq, true_and] at h
      obtain rfl : p = q := path_inj hx.2 hy.2 h.1
      rw [h.2.1]
      exact ⟨rfl, h.2.2⟩
    | special => exact absurd rfl hy.1
  | special => exact absurd rfl hx.1

lemma items_append_inj {xs ys : List (List String × TreeItem Bytes)}
    (hxs : GoodItems xs) (hys : GoodItems ys) (hr : EndsItems r) (hr' : EndsItems r')
    (h : xs.flatMap itemFields ++ r = ys.flatMap itemFields ++ r') : xs = ys ∧ r = r' := by
  induction xs generalizing ys with
  | nil =>
    cases ys with
    | nil => exact ⟨rfl, h⟩
    | cons y ys =>
      rw [List.flatMap_nil, List.nil_append, List.flatMap_cons, List.append_assoc] at h
      exact absurd (h ▸ hr) (itemFields_second (hys y List.mem_cons_self).1)
  | cons x xs ih =>
    rw [List.flatMap_cons, List.append_assoc] at h
    cases ys with
    | nil =>
      rw [List.flatMap_nil, List.nil_append] at h
      exact absurd (h ▸ hr') (itemFields_second (hxs x List.mem_cons_self).1)
    | cons y ys =>
      rw [List.flatMap_cons, List.append_assoc] at h
      obtain ⟨rfl, hrest⟩ := itemFields_append_inj (hxs x List.mem_cons_self)
        (hys y List.mem_cons_self) h
      obtain ⟨rfl, hrr⟩ := ih (fun z hz => hxs z (List.mem_cons_of_mem _ hz))
        (fun z hz => hys z (List.mem_cons_of_mem _ hz)) hrest
      exact ⟨rfl, hrr⟩

lemma artifacts_append_inj {ps qs : List (Digest × Bytes)}
    (hps : ∀ p ∈ ps, utf8 "sha256:" <+: utf8 p.1) (hqs : ∀ q ∈ qs, utf8 "sha256:" <+: utf8 q.1)
    (hr : EndsArtifacts r) (hr' : EndsArtifacts r')
    (h : (ps.flatMap fun p => [utf8 p.1, p.2]) ++ r = (qs.flatMap fun p => [utf8 p.1, p.2]) ++ r') :
    ps = qs ∧ r = r' := by
  induction ps generalizing qs with
  | nil =>
    cases qs with
    | nil => exact ⟨rfl, h⟩
    | cons q qs =>
      exact absurd (hqs q List.mem_cons_self) (hr _ (by
        rw [List.flatMap_nil, List.nil_append] at h
        rw [h]
        rfl))
  | cons p ps ih =>
    cases qs with
    | nil =>
      exact absurd (hps p List.mem_cons_self) (hr' _ (by
        rw [List.flatMap_nil, List.nil_append] at h
        rw [← h]
        rfl))
    | cons q qs =>
      rw [List.flatMap_cons, List.flatMap_cons, List.append_assoc, List.append_assoc] at h
      obtain ⟨hdigest, hcontent, hrest⟩ : utf8 p.1 = utf8 q.1 ∧ p.2 = q.2 ∧ _ := by
        simpa using h
      obtain ⟨rfl, hrr⟩ := ih (fun z hz => hps z (List.mem_cons_of_mem _ hz))
        (fun z hz => hqs z (List.mem_cons_of_mem _ hz)) hrest
      exact ⟨by rw [Prod.ext (utf8_inj hdigest) hcontent], hrr⟩

/-! ### One evidence digest -/

section Binding

variable [StoreCrypto] {marker marker' : Bytes}

omit [StoreCrypto] in
lemma FileIdentity.values_inj {i i' : FileIdentity} (h : i.values = i'.values) : i = i' := by
  obtain ⟨_, _, _, _, _, _, _, _⟩ := i
  obtain ⟨_, _, _, _, _, _, _, _⟩ := i'
  simpa [FileIdentity.values] using h

lemma surfaceIdentity_inj [InjectiveDigests] {source source' : OpenedSurface} {d : Digest}
    (h : surfaceIdentity source = .ok d) (h' : surfaceIdentity source' = .ok d)
    (hsurface : source.surface = source'.surface) : source.identity = source'.identity := by
  simp only [surfaceIdentity, identityBytes, bind_eq_ok, raiseIf_eq_ok, exists_const,
    pure_eq_ok] at h h'
  obtain ⟨_, ⟨hbound, rfl⟩, rfl⟩ := h
  obtain ⟨_, ⟨hbound', rfl⟩, hsame⟩ := h'
  push Not at hbound hbound'
  have hframes := List.append_cancel_left (InjectiveDigests.sha256_injective hsame)
  rw [hsurface, List.append_cancel_left_eq] at hframes
  have hlength : ∀ i : FileIdentity, (i.values.flatMap (bigEndian 8)).length = 64 := by
    intro i
    simp [FileIdentity.values]
  simp only [frame, hlength, List.append_cancel_left_eq] at hframes
  exact (FileIdentity.values_inj (bigEndians_inj (by decide) hbound' hbound hframes)).symm

lemma canonicalDigest_inj [InjectiveDigests] {domain : String} {v w : CanonicalJson}
    (h : canonicalDigest domain (utf8 v.render) = canonicalDigest domain (utf8 w.render)) :
    v = w := by
  have hbytes := List.append_cancel_left (InjectiveDigests.sha256_injective h)
  exact CanonicalJson.render_inj.mp (utf8_inj hbytes)

omit [StoreCrypto] in
lemma IsolationSurface.value_inj {s s' : IsolationSurface} (h : s.value = s'.value) : s = s' := by
  cases s <;> cases s' <;> first | rfl | exact absurd h (by decide)

lemma RuntimeSurfaceManifest.digest_inj [InjectiveDigests] {m m' : RuntimeSurfaceManifest}
    (h : m.digest = m'.digest) : m = m' := by
  have hjson := canonicalDigest_inj h
  obtain ⟨_, _, _, ⟨_, _, _, _, _, _, _, _, _, _, _, _, _⟩, _, _, _, _, surfaces, _, _⟩ := m
  obtain ⟨_, _, _, ⟨_, _, _, _, _, _, _, _, _, _, _, _, _⟩, _, _, _, _, surfaces', _, _⟩ := m'
  simp only [RuntimeSurfaceManifest.json, RuntimeSurfaceBinding.json, CanonicalJson.obj.injEq,
    List.cons.injEq, Prod.mk.injEq, CanonicalJson.str.injEq, CanonicalJson.arr.injEq, true_and,
    and_true] at hjson
  have hsurfaces : surfaces = surfaces' := by
    refine List.map_injective_iff.mpr ?_ hjson.2.2.2.2.2.2.2.2
    rintro ⟨s, d⟩ ⟨s', d'⟩ hi
    simp only [RuntimeSurfaceIdentity.json, CanonicalJson.obj.injEq, List.cons.injEq,
      Prod.mk.injEq, CanonicalJson.str.injEq, true_and, and_true] at hi
    rw [hi.1, IsolationSurface.value_inj hi.2]
  simp only [RuntimeSurfaceManifest.mk.injEq, RuntimeSurfaceBinding.mk.injEq]
  simp only [hsurfaces, hjson, and_self]

namespace IsolationSurfaceCollector

variable {collector collector' : IsolationSurfaceCollector}

/-- What a collection has checked of a source. -/
structure Passed (collector : IsolationSurfaceCollector) (source : OpenedSurface) : Prop where
  identified : ∃ d, surfaceIdentity source = .ok d ∧
    collector.manifest.identityOf source.surface = some d
  good : GoodItems source.items
  named : source.surface = .artifactStore → ∀ p ∈ collector.artifacts,
    ∃ content, p.1 = sha256 content

variable {s s' : Scan}

omit [StoreCrypto] in
lemma scanItem_ne_special {x : List String × TreeItem Bytes}
    (h : scanItem marker s x = .ok s') : x.2 ≠ .special := by
  rintro hspecial
  obtain ⟨relative, item⟩ := x
  simp only at hspecial
  subst hspecial
  cases h

omit [StoreCrypto] in
lemma exists_of_foldSteps {α : Type} {step : Scan → α → Except CanaryError Scan}
    {as : List α} (h : foldSteps step s as = .ok s') :
    ∀ a ∈ as, ∃ s₁ s₂, step s₁ a = .ok s₂ := by
  induction as generalizing s with
  | nil => exact fun a ha => nomatch ha
  | cons a as ih =>
    obtain ⟨s₁, hstep, hrest⟩ := foldSteps_cons_eq_ok.mp h
    rw [List.forall_mem_cons]
    exact ⟨⟨s, s₁, hstep⟩, ih hrest⟩

variable {source : OpenedSurface}

lemma passed_of_collectSource
    (h : collectSource marker collector s source = .ok s') : collector.Passed source := by
  simp only [collectSource, bind_eq_ok, raiseIf_eq_ok, exists_const, not_not] at h
  obtain ⟨s₁, -, d, hidentity, hnamed, s₂, -, s₃, hroot, hrest⟩ := h
  refine ⟨⟨d, hidentity, hnamed⟩, ?_, ?_⟩
  · intro x hx
    rw [OpenedSurface.items] at hx
    have hnames := source.names_valid
    cases hnode : source.root with
    | directory entries =>
      rw [hnode] at hx hroot hnames
      obtain ⟨_, _, hitem⟩ := exists_of_foldSteps hroot x hx
      exact ⟨scanItem_ne_special hitem, hnames x (List.mem_cons_of_mem _ hx)⟩
    | file content =>
      rw [hnode] at hx
      rw [List.mem_singleton.mp hx]
      exact ⟨by simp [TreeNode.item], fun name hname => absurd hname List.not_mem_nil⟩
    | special =>
      rw [hnode] at hroot
      cases hroot
  · intro hstore p hp
    rw [if_pos hstore, scanArtifactPlaintext] at hrest
    obtain ⟨s₄, -, hrest⟩ := bind_eq_ok.mp hrest
    obtain ⟨r, hr, rfl⟩ := List.mem_map.mp hp
    obtain ⟨_, _, hartifact⟩ := exists_of_foldSteps hrest r hr
    obtain ⟨content, hcontent, -⟩ := bind_eq_ok.mp hartifact
    rw [Except.mapError_eq_ok_iff] at hcontent
    simp only [ContentAddressedStore.verifiedPlaintext, bind_eq_ok, raiseIf_eq_ok, exists_const,
      pure_eq_ok] at hcontent
    obtain ⟨_, -, content', -, hsame, -⟩ := hcontent
    rw [not_or, not_not, not_not] at hsame
    exact ⟨content', hsame.2.symm⟩

lemma passed_of_collect {digest : Digest} (h : collect marker collector = .ok digest) :
    ∀ source ∈ collector.sources, collector.Passed source := by
  simp only [collect, bind_eq_ok, raiseIf_eq_ok, exists_const, pure_eq_ok] at h
  obtain ⟨-, _, -, -, s₁, -, s₂, hsources, -⟩ := h
  intro source hsource
  obtain ⟨_, _, hstep⟩ := exists_of_foldSteps hsources source hsource
  exact passed_of_collectSource hstep

/-- The header of a surface, or nothing, comes next. -/
def Header (rest : List Bytes) : Prop :=
  rest = [] ∨ ∃ (surface : IsolationSurface) (d : Digest) (r : List Bytes),
    rest = utf8 surface.value :: utf8 d :: r ∧ utf8 "sha256:" <+: utf8 d

variable {rest : List Bytes}

omit [StoreCrypto] in
lemma Header.endsItems (h : Header rest) : EndsItems rest := by
  rcases h with rfl | ⟨surface, d, r, rfl, hd⟩
  · exact ⟨by simp, by simp⟩
  · refine ⟨fun hd' => ?_, fun hd' => ?_⟩
    · rw [List.getElem?_cons_succ, List.getElem?_cons_zero, Option.some.injEq] at hd'
      exact absurd (hd' ▸ hd) (by decide)
    · rw [List.getElem?_cons_succ, List.getElem?_cons_zero, Option.some.injEq] at hd'
      exact absurd (hd' ▸ hd) (by decide)

omit [StoreCrypto] in
lemma Header.endsArtifacts (h : Header rest) : EndsArtifacts rest := by
  rcases h with rfl | ⟨surface, d, r, rfl, -⟩
  · exact fun f hf => nomatch hf
  · intro f hf
    rw [List.head?_cons, Option.some.injEq] at hf
    rw [← hf]
    cases surface <;> decide

lemma Passed.getD_identityOf [InjectiveDigests]
    (h : collector.Passed source) :
    utf8 "sha256:" <+: utf8 ((collector.manifest.identityOf source.surface).getD "") := by
  obtain ⟨d, hidentity, hnamed⟩ := h.identified
  obtain ⟨identity, -, hd⟩ := bind_eq_ok.mp hidentity
  rw [hnamed, Option.getD_some, ← pure_eq_ok.mp hd]
  exact InjectiveDigests.sha256_named _

lemma Passed.artifacts_named [InjectiveDigests]
    (h : collector.Passed source) (hstore : source.surface = .artifactStore) :
    ∀ p ∈ collector.artifacts, utf8 "sha256:" <+: utf8 p.1 := by
  intro p hp
  obtain ⟨content, hdigest⟩ := h.named hstore p hp
  rw [hdigest]
  exact InjectiveDigests.sha256_named content

lemma header_sources [InjectiveDigests] {sources : List OpenedSurface}
    (h : ∀ source ∈ sources, collector.Passed source) :
    Header (sources.flatMap collector.sourceFields) := by
  cases sources with
  | nil => exact Or.inl rfl
  | cons source sources =>
    exact Or.inr ⟨source.surface, _, _, rfl, (h source List.mem_cons_self).getD_identityOf⟩

/-- What follows the items of a surface. -/
lemma Passed.endsItems [InjectiveDigests] (h : collector.Passed source) (hrest : Header rest) :
    EndsItems ((if source.surface = .artifactStore then collector.artifactFields else []) ++
      rest) := by
  split_ifs with hstore
  · have hnamed := h.artifacts_named hstore
    rw [artifactFields, List.cons_append]
    have hne : ∀ f : Bytes, ¬ utf8 "sha256:" <+: f →
        (collector.artifacts.flatMap (fun p => [utf8 p.1, p.2]) ++ rest).head? = some f →
        ∃ surface : IsolationSurface, f = utf8 surface.value := by
      intro f hf hhead
      cases hartifacts : collector.artifacts with
      | nil =>
        rw [hartifacts, List.flatMap_nil, List.nil_append] at hhead
        rcases hrest with rfl | ⟨surface, d, r, rfl, -⟩
        · cases hhead
        · exact ⟨surface, (Option.some.inj hhead).symm⟩
      | cons p ps =>
        rw [hartifacts] at hhead hnamed
        have hp : utf8 p.1 = f := Option.some.inj hhead
        exact absurd (hp ▸ hnamed p List.mem_cons_self) hf
    have hkind : ∀ f : Bytes, ¬ utf8 "sha256:" <+: f →
        (∀ surface : IsolationSurface, f ≠ utf8 surface.value) →
        (utf8 "verified-artifact-plaintext" ::
          (collector.artifacts.flatMap (fun p => [utf8 p.1, p.2]) ++ rest))[1]? ≠ some f := by
      intro f hf hsurface hget
      rw [List.getElem?_cons_succ, ← List.head?_eq_getElem?] at hget
      obtain ⟨surface, hvalue⟩ := hne f hf hget
      exact hsurface surface hvalue
    exact ⟨hkind _ (by decide) fun surface => by cases surface <;> decide,
      hkind _ (by decide) fun surface => by cases surface <;> decide⟩
  · exact hrest.endsItems

lemma sourceFields_append_inj [InjectiveDigests] {source source' : OpenedSurface}
    {r r' : List Bytes} (hpassed : collector.Passed source) (hpassed' : collector'.Passed source')
    (hmanifest : collector.manifest = collector'.manifest)
    (hsurface : source.surface = source'.surface) (hr : Header r) (hr' : Header r')
    (h : collector.sourceFields source ++ r = collector'.sourceFields source' ++ r') :
    source.items = source'.items ∧
      (source.surface = .artifactStore → collector.artifacts = collector'.artifacts) ∧ r = r' := by
  have hidentity : source.identity = source'.identity := by
    obtain ⟨d, hd, hnamed⟩ := hpassed.identified
    obtain ⟨d', hd', hnamed'⟩ := hpassed'.identified
    rw [← hmanifest, ← hsurface, hnamed, Option.some.injEq] at hnamed'
    exact surfaceIdentity_inj hd (hnamed' ▸ hd') hsurface
  have hkind : (∃ entries, source.root = .directory entries) ↔
      ∃ entries, source'.root = .directory entries := by
    rw [← source.root_kind, ← source'.root_kind, hidentity]
  simp only [sourceFields, List.cons_append, List.append_assoc, List.cons.injEq] at h
  have hafter := h.2.2
  -- what follows the items, once they are known to be the same
  have hrest : ∀ {t t' : List Bytes},
      t = (if source.surface = .artifactStore then collector.artifactFields else []) ++ r →
      t' = (if source'.surface = .artifactStore then collector'.artifactFields else []) ++ r' →
      t = t' → (source.surface = .artifactStore → collector.artifacts = collector'.artifacts) ∧
        r = r' := by
    rintro t t' rfl rfl ht
    rw [← hsurface] at ht
    split_ifs at ht with hstore
    · rw [artifactFields, artifactFields, List.cons_append, List.cons_append, List.cons.injEq] at ht
      obtain ⟨hartifacts, hrr⟩ := artifacts_append_inj (hpassed.artifacts_named hstore)
        (hpassed'.artifacts_named (hsurface ▸ hstore)) hr.endsArtifacts hr'.endsArtifacts ht.2
      exact ⟨fun _ => hartifacts, hrr⟩
    · exact ⟨fun h => absurd h hstore, ht⟩
  have hgood := hpassed.good
  have hgood' := hpassed'.good
  rw [OpenedSurface.items] at hgood hgood' ⊢
  rw [OpenedSurface.items]
  cases hroot : source.root with
  | directory entries =>
    obtain ⟨entries', hroot'⟩ := hkind.mp ⟨entries, hroot⟩
    rw [hroot] at hgood hafter
    rw [hroot'] at hgood' hafter ⊢
    obtain ⟨hitems, ht⟩ := items_append_inj hgood hgood' (hpassed.endsItems hr)
      (hpassed'.endsItems hr') hafter
    exact ⟨hitems, hrest rfl rfl ht⟩
  | file content =>
    cases hroot' : source'.root with
    | directory entries' =>
      obtain ⟨entries, hentries⟩ := hkind.mpr ⟨entries', hroot'⟩
      rw [hroot] at hentries
      cases hentries
    | file content' =>
      rw [hroot, hroot'] at hafter
      simp only [rootFields, List.cons_append, List.nil_append, List.cons.injEq, true_and] at hafter
      rw [hafter.1]
      exact ⟨rfl, hrest rfl rfl hafter.2⟩
    | special =>
      rw [hroot'] at hgood'
      exact absurd rfl (hgood' _ (List.mem_singleton_self _)).1
  | special =>
    rw [hroot] at hgood
    exact absurd rfl (hgood _ (List.mem_singleton_self _)).1

lemma sources_inj [InjectiveDigests] {sources sources' : List OpenedSurface}
    (hpassed : ∀ source ∈ sources, collector.Passed source)
    (hpassed' : ∀ source ∈ sources', collector'.Passed source)
    (hmanifest : collector.manifest = collector'.manifest)
    (hsurfaces : sources.map OpenedSurface.surface = sources'.map OpenedSurface.surface)
    (h : sources.flatMap collector.sourceFields = sources'.flatMap collector'.sourceFields) :
    (sources.map fun source => (source.surface, source.items)) =
        (sources'.map fun source => (source.surface, source.items)) ∧
      (.artifactStore ∈ sources.map OpenedSurface.surface →
        collector.artifacts = collector'.artifacts) := by
  induction sources generalizing sources' with
  | nil =>
    rw [List.map_nil, eq_comm, List.map_eq_nil_iff] at hsurfaces
    rw [hsurfaces]
    exact ⟨rfl, fun hmem => nomatch hmem⟩
  | cons source sources ih =>
    cases sources' with
    | nil => cases hsurfaces
    | cons source' sources' =>
      rw [List.map_cons, List.map_cons, List.cons.injEq] at hsurfaces
      rw [List.forall_mem_cons] at hpassed hpassed'
      rw [List.flatMap_cons, List.flatMap_cons] at h
      obtain ⟨hitems, hstore, hrest⟩ := sourceFields_append_inj hpassed.1 hpassed'.1 hmanifest
        hsurfaces.1 (header_sources hpassed.2) (header_sources hpassed'.2) h
      obtain ⟨hrows, hstore'⟩ := ih hpassed.2 hpassed'.2 hsurfaces.2 hrest
      refine ⟨by rw [List.map_cons, List.map_cons, hitems, hsurfaces.1, hrows], ?_⟩
      rw [List.map_cons, List.mem_cons]
      rintro (hhere | hlater)
      · exact hstore hhere.symm
      · exact hstore' hlater

/-- What a collection scans: the items of every surface, and the artifacts. -/
def scanned (collector : IsolationSurfaceCollector) :
    List (IsolationSurface × List (List String × TreeItem Bytes)) × List (Digest × Bytes) :=
  (collector.sources.map fun source => (source.surface, source.items), collector.artifacts)

/-- Two collections with one evidence digest have scanned the same. -/
theorem scanned_eq [InjectiveDigests] {digest : Digest}
    (h : collect marker collector = .ok digest) (h' : collect marker' collector' = .ok digest) :
    collector.manifest = collector'.manifest ∧ collector.scanned = collector'.scanned := by
  obtain ⟨hdigest, hframes⟩ := collect_eq_ok h
  obtain ⟨hdigest', hframes'⟩ := collect_eq_ok h'
  have hfields := frames_inj hframes hframes' (List.append_cancel_left
    (InjectiveDigests.sha256_injective (hdigest.symm.trans hdigest')))
  rw [fields, fields, List.cons.injEq] at hfields
  have hmanifest := RuntimeSurfaceManifest.digest_inj (utf8_inj hfields.1)
  have hsurfaces := collector.sources_complete.trans collector'.sources_complete.symm
  obtain ⟨hrows, hartifacts⟩ := sources_inj (passed_of_collect h) (passed_of_collect h') hmanifest
    hsurfaces hfields.2
  refine ⟨hmanifest, Prod.ext hrows (hartifacts ?_)⟩
  rw [collector.sources_complete]
  decide

end IsolationSurfaceCollector

end Binding

end EdaGym
