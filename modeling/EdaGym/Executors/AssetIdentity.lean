import EdaGym.Artifacts.Store
import EdaGym.Lib.CanonicalJson
import EdaGym.Lib.PosixPath

/-!
# Identities of assets

An asset is captured while nothing changes it. A file is known by the digest of its bytes, a
directory by the digest of a manifest, which lists everything below it; both digests are taken with
the same function, and the manifest differs from the bytes of a file only by what stands before it.
-/

namespace EdaGym

def MAX_ASSET_CAPTURE_ENTRIES : Nat := 4096
def MAX_ASSET_CAPTURE_TOTAL_BYTES : Nat := 16 * 1024 * 1024 * 1024
def MAX_ASSET_CAPTURE_DEPTH : Nat := 32
def MAX_ASSET_CAPTURE_PATH_BYTES : Nat := 4096

/-! ### File trees -/

/-- An object of a file system with what is below it; a directory names its entries in any order. -/
inductive AssetNode
  | file (mode links : Nat) (content : Bytes)
  | directory (mode : Nat) (names : List String) (distinct : names.Nodup)
    (child : String → AssetNode)
  | other (mode : Nat)

/-- What a reader finds at a path. -/
inductive AssetItem
  | file (mode : Nat) (content : Bytes)
  | directory (mode : Nat)
  | other (mode : Nat)
deriving DecidableEq

namespace AssetNode

/-- The permission bits, `stat.S_IMODE`. -/
def mode : AssetNode → Nat
  | file mode _ _ | directory mode _ _ _ | other mode => mode

def links : AssetNode → Nat
  | file _ links _ => links
  | _ => 1

def size : AssetNode → Nat
  | file _ _ content => content.length
  | _ => 0

def isRegular : AssetNode → Bool
  | file _ _ _ => true
  | _ => false

def isDirectory : AssetNode → Bool
  | directory _ _ _ _ => true
  | _ => false

def item : AssetNode → AssetItem
  | file mode _ content => .file mode content
  | directory mode _ _ _ => .directory mode
  | other mode => .other mode

/-- What stands at a relative path; at the empty one, the object itself. -/
def at? : AssetNode → List String → Option AssetItem
  | node, [] => some node.item
  | directory _ names _ child, name :: rest => if name ∈ names then (child name).at? rest else none
  | file _ _ _, _ :: _ | other _, _ :: _ => none

/-- Two objects are the same asset: the same kinds, permission bits and contents stand at the same
relative paths. -/
def SameAsset (a b : AssetNode) : Prop := ∀ path, a.at? path = b.at? path

end AssetNode

/-! ### Capture -/

inductive AssetIdentityError
  | identity (message : String)
deriving DecidableEq

structure CaptureBudget where
  entries : Nat := 0
  totalBytes : Nat := 0

namespace CaptureBudget

def account (budget : CaptureBudget) (node : AssetNode) (relativePath : Option (List String))
    (depth : Nat) : Except AssetIdentityError CaptureBudget := do
  raiseIf (MAX_ASSET_CAPTURE_DEPTH < depth)
    (.identity "asset closure exceeds the capture depth limit")
  raiseIf (∃ path ∈ relativePath, MAX_ASSET_CAPTURE_PATH_BYTES < (utf8 (asPosix path)).length)
    (.identity "asset closure exceeds the path length limit")
  raiseIf (MAX_ASSET_CAPTURE_ENTRIES < budget.entries + 1)
    (.identity "asset closure exceeds the entry limit")
  raiseIf (node.isRegular = true ∧ MAX_ASSET_CAPTURE_TOTAL_BYTES - budget.totalBytes < node.size)
    (.identity "asset closure exceeds the byte limit")
  pure { entries := budget.entries + 1, totalBytes := budget.totalBytes + node.size }

end CaptureBudget

def requireAssetMode (node : AssetNode) : Except AssetIdentityError PUnit :=
  raiseIf (node.mode &&& 0o022 ≠ 0) (.identity "assets cannot be broadly writable")

/-- Only files are asked for it. -/
def requireSingleLink (node : AssetNode) : Except AssetIdentityError PUnit :=
  raiseIf (node.isRegular = true ∧ node.links ≠ 1)
    (.identity "asset files cannot have multiple hard links")

inductive AssetEntryKind
  | directory | file
deriving DecidableEq

def AssetEntryKind.value : AssetEntryKind → String
  | .directory => "directory"
  | .file => "file"

/-- One line of a manifest. -/
structure AssetEntry where
  path : String
  kind : AssetEntryKind
  mode : Nat
  sizeBytes : Nat
  contentDigest : Option Digest

def AssetEntry.json (entry : AssetEntry) : CanonicalJson :=
  .obj [("content_digest", match entry.contentDigest with
      | none => .null
      | some digest => .str digest),
    ("kind", .str entry.kind.value), ("mode", .nat entry.mode), ("path", .str entry.path),
    ("size_bytes", .nat entry.sizeBytes)]

section Capture

variable (sha256 : Bytes → Digest)

def digestFileDescriptor (content : Bytes) : Digest := sha256 content

/-- The bytes whose digest a directory is known by. -/
def manifestMaterial (rootMode : Nat) (entries : List AssetEntry) : Bytes :=
  utf8 "edagym" ++ [0] ++ utf8 "participant-asset-manifest-v1" ++ [0] ++
    utf8 (CanonicalJson.render
      (.obj [("entries", .arr (entries.map AssetEntry.json)), ("root_mode", .nat rootMode)]))

def manifestDigest (rootMode : Nat) (entries : List AssetEntry) : Digest :=
  sha256 (manifestMaterial rootMode entries)

def boundedDirectoryNames (names : List String) : Except AssetIdentityError (List String) := do
  raiseIf (MAX_ASSET_CAPTURE_ENTRIES < names.length)
    (.identity "asset directory exceeds the entry limit")
  pure (sortedStrings names)

/-- The entries below a directory, in the order of the names. -/
def directoryEntries : AssetNode → List String → Nat → CaptureBudget →
    Except AssetIdentityError (List AssetEntry × CaptureBudget)
  | .directory mode names distinct child, pre, depth, budget => do
    requireAssetMode (.directory mode names distinct child)
    let names ← boundedDirectoryNames names
    names.foldlM (fun (state : List AssetEntry × CaptureBudget) name => do
      raiseIf (name = "" ∨ name = "." ∨ name = ".." ∨ '/' ∈ name.toList)
        (.identity "asset contains an invalid directory entry")
      raiseIf (¬ ((child name).isDirectory = true ∨ (child name).isRegular = true))
        (.identity "asset trees cannot contain links or special files")
      requireAssetMode (child name)
      requireSingleLink (child name)
      let budget ← state.2.account (child name) (some (pre ++ [name])) (depth + 1)
      match child name with
      | .file mode _ content =>
        pure (state.1 ++ [⟨asPosix (pre ++ [name]), .file, mode, content.length,
          some (digestFileDescriptor sha256 content)⟩], budget)
      | node =>
        let below ← directoryEntries (child name) (pre ++ [name]) (depth + 1) budget
        pure (state.1 ++ [⟨asPosix (pre ++ [name]), .directory, node.mode, 0, none⟩] ++ below.1,
          below.2)) ([], budget)
  | .file _ _ _, _, _, budget | .other _, _, _, budget => pure ([], budget)

/-- `capture_asset_descriptor`, of an object that does not change meanwhile. -/
def captureAssetDescriptor (node : AssetNode) : Except AssetIdentityError Digest := do
  requireAssetMode node
  let budget ← CaptureBudget.account {} node none 0
  match node with
  | .file mode links content =>
    requireSingleLink (.file mode links content)
    pure (digestFileDescriptor sha256 content)
  | .directory mode names distinct child =>
    let entries ← directoryEntries sha256 (.directory mode names distinct child) [] 0 budget
    pure (manifestDigest sha256 mode entries.1)
  | .other _ => .error (.identity "assets must be regular files or directories")

end Capture

/-! ### What a manifest says -/

namespace AssetNode

/-- Everything below a directory, in the order in which it is captured. -/
def listing : AssetNode → List String → List (List String × AssetItem)
  | directory _ names _ child, pre =>
    (sortedStrings names).flatMap fun name =>
      (pre ++ [name], (child name).item) :: (child name).listing (pre ++ [name])
  | file _ _ _, _ | other _, _ => []

/-- Nothing but directories and files with one link, under names that are parts of a path. -/
def Plain : AssetNode → Prop
  | file _ links _ => links = 1
  | directory _ names _ child => ∀ name ∈ names, IsPart name ∧ (child name).Plain
  | other _ => False

lemma at?_nil (a : AssetNode) : a.at? [] = some a.item := by
  cases a <;> rfl

/-- The listing is what stands at the paths that are not empty. -/
lemma mem_listing {a : AssetNode} {pre path : List String} {item : AssetItem} :
    (path, item) ∈ a.listing pre ↔ ∃ name rest, path = pre ++ name :: rest ∧
      a.at? (name :: rest) = some item := by
  induction a generalizing pre path with
  | file => simp [listing, at?]
  | other => simp [listing, at?]
  | directory mode names distinct child ih =>
    simp only [listing, List.mem_flatMap, mem_sortedStrings, List.mem_cons, Prod.mk.injEq, ih, at?]
    constructor
    · rintro ⟨name, hname, ⟨rfl, rfl⟩ | ⟨name', rest, rfl, hitem⟩⟩
      · exact ⟨name, [], rfl, by rw [if_pos hname, at?_nil]⟩
      · exact ⟨name, name' :: rest, by simp, by rw [if_pos hname, hitem]⟩
    · rintro ⟨name, rest, rfl, hitem⟩
      split_ifs at hitem with hname
      refine ⟨name, hname, ?_⟩
      cases rest with
      | nil =>
        rw [at?_nil, Option.some.injEq] at hitem
        exact Or.inl ⟨rfl, hitem.symm⟩
      | cons name' rest => exact Or.inr ⟨name', rest, by simp, hitem⟩

/-- What stands in a plain tree, stands at a path of plain names, and is a file or a directory. -/
lemma Plain.at? {a : AssetNode} (h : a.Plain) {path : List String} {item : AssetItem}
    (hitem : a.at? path = some item) :
    (∀ name ∈ path, IsPart name) ∧ ∀ mode, item ≠ .other mode := by
  induction a generalizing path with
  | file mode links content =>
    cases path with
    | nil =>
      obtain rfl : AssetItem.file mode content = item := Option.some.inj hitem
      exact ⟨by simp, by simp⟩
    | cons => cases hitem
  | other => exact absurd h id
  | directory mode names distinct child ih =>
    cases path with
    | nil =>
      obtain rfl : AssetItem.directory mode = item := Option.some.inj hitem
      exact ⟨by simp, by simp⟩
    | cons name rest =>
      rw [AssetNode.at?] at hitem
      split_ifs at hitem with hname
      obtain ⟨hrest, hother⟩ := ih name (h name hname).2 hitem
      refine ⟨fun name' hname' => ?_, hother⟩
      rcases List.mem_cons.mp hname' with rfl | hname'
      · exact (h name' hname).1
      · exact hrest name' hname'

end AssetNode

section Capture

variable (sha256 : Bytes → Digest)

/-- The line of a manifest for what stands at a path. -/
def assetEntry (x : List String × AssetItem) : AssetEntry :=
  match x.2 with
  | .file mode content =>
    ⟨asPosix x.1, .file, mode, content.length, some (digestFileDescriptor sha256 content)⟩
  | .directory mode | .other mode => ⟨asPosix x.1, .directory, mode, 0, none⟩

variable {sha256}

lemma foldlM_entries {names : List String}
    {f : List AssetEntry × CaptureBudget → String →
      Except AssetIdentityError (List AssetEntry × CaptureBudget)}
    {g : String → List AssetEntry} {P : String → Prop}
    (hf : ∀ name s s', f s name = .ok s' → s'.1 = s.1 ++ g name ∧ P name)
    {s s' : List AssetEntry × CaptureBudget} (h : names.foldlM f s = .ok s') :
    s'.1 = s.1 ++ names.flatMap g ∧ ∀ name ∈ names, P name := by
  induction names generalizing s with
  | nil =>
    obtain rfl : s = s' := Except.ok.inj h
    simp
  | cons name names ih =>
    rw [List.foldlM_cons, bind_eq_ok] at h
    obtain ⟨s₁, hs₁, h⟩ := h
    obtain ⟨hfirst, hname⟩ := hf name s s₁ hs₁
    obtain ⟨hrest, hnames⟩ := ih h
    refine ⟨by rw [hrest, hfirst, List.flatMap_cons, List.append_assoc], ?_⟩
    exact List.forall_mem_cons.mpr ⟨hname, hnames⟩

/-- Capture lists what is below a directory, and finds it plain. -/
lemma directoryEntries_eq_ok {a : AssetNode} (ha : a.isDirectory = true) {pre : List String}
    {depth : Nat} {budget : CaptureBudget} {r : List AssetEntry × CaptureBudget}
    (h : directoryEntries sha256 a pre depth budget = .ok r) :
    r.1 = (a.listing pre).map (assetEntry sha256) ∧ a.Plain := by
  induction a generalizing pre depth budget r with
  | file => cases ha
  | other => cases ha
  | directory mode names distinct child ih =>
    rw [directoryEntries, requireAssetMode, raiseIf_bind_eq_ok, boundedDirectoryNames] at h
    obtain ⟨-, h⟩ := h
    rw [bind_assoc, raiseIf_bind_eq_ok] at h
    obtain ⟨-, h⟩ := h
    have hlines := foldlM_entries (g := fun name => ((pre ++ [name], (child name).item) ::
      (child name).listing (pre ++ [name])).map (assetEntry sha256))
      (P := fun name => IsPart name ∧ (child name).Plain) ?_ h
    · refine ⟨?_, fun name hname => hlines.2 name (mem_sortedStrings.mpr hname)⟩
      rw [hlines.1, List.nil_append, AssetNode.listing, List.map_flatMap]
    · intro name s s' hstep
      rw [raiseIf_bind_eq_ok] at hstep
      obtain ⟨hname, hstep⟩ := hstep
      rw [raiseIf_bind_eq_ok] at hstep
      obtain ⟨hkind, hstep⟩ := hstep
      rw [requireAssetMode, raiseIf_bind_eq_ok] at hstep
      obtain ⟨-, hstep⟩ := hstep
      rw [requireSingleLink, raiseIf_bind_eq_ok] at hstep
      obtain ⟨hlinks, hstep⟩ := hstep
      obtain ⟨budget', -, hstep⟩ := bind_eq_ok.mp hstep
      rw [not_or, not_or, not_or] at hname
      have hpart : IsPart name := ⟨hname.1, hname.2.1, hname.2.2.2⟩
      cases hchild : child name with
      | file mode links content =>
        rw [hchild] at hstep hlinks
        obtain rfl : _ = s' := Except.ok.inj hstep
        exact ⟨rfl, hpart, not_not.mp fun hne => hlinks ⟨rfl, hne⟩⟩
      | directory mode' names' distinct' child' =>
        simp only [hchild] at hstep
        obtain ⟨below, hbelow, hstep⟩ := bind_eq_ok.mp hstep
        rw [← hchild] at hbelow
        obtain ⟨hlines', hplain⟩ := ih name (by rw [hchild]; rfl) hbelow
        obtain rfl : _ = s' := Except.ok.inj hstep
        rw [hchild] at hlines' hplain
        refine ⟨?_, hpart, hplain⟩
        dsimp only
        rw [List.map_cons, hlines', List.append_assoc]
        rfl
      | other =>
        rw [hchild] at hkind
        exact absurd (by simp [AssetNode.isDirectory, AssetNode.isRegular]) hkind

lemma assetEntry_json_injective : Function.Injective AssetEntry.json := by
  rintro ⟨path, kind, mode, sizeBytes, contentDigest⟩
    ⟨path', kind', mode', sizeBytes', contentDigest'⟩ h
  simp only [AssetEntry.json, CanonicalJson.obj.injEq, List.cons.injEq, Prod.mk.injEq,
    CanonicalJson.str.injEq, CanonicalJson.nat.injEq, true_and, and_true] at h
  obtain ⟨hdigest, hkind, rfl, rfl, rfl⟩ := h
  have hkind' : kind = kind' := by
    cases kind <;> cases kind' <;> simp [AssetEntryKind.value] at hkind ⊢
  have hdigest' : contentDigest = contentDigest' := by
    cases contentDigest <;> cases contentDigest' <;> simp at hdigest ⊢
    exact hdigest
  rw [hkind', hdigest']

lemma manifestMaterial_inj {rootMode rootMode' : Nat} {entries entries' : List AssetEntry}
    (h : manifestMaterial rootMode entries = manifestMaterial rootMode' entries') :
    rootMode = rootMode' ∧ entries = entries' := by
  have hjson := CanonicalJson.render_inj.mp (utf8_inj (List.append_cancel_left h))
  simp only [CanonicalJson.obj.injEq, List.cons.injEq, Prod.mk.injEq, CanonicalJson.arr.injEq,
    CanonicalJson.nat.injEq, true_and, and_true] at hjson
  exact ⟨hjson.2, List.map_injective_iff.mpr assetEntry_json_injective hjson.1⟩

/-- A line determines what stands at its path. -/
lemma assetEntry_inj (hsha : Function.Injective sha256) {x y : List String × AssetItem}
    (hx : ∀ name ∈ x.1, IsPart name) (hy : ∀ name ∈ y.1, IsPart name)
    (hx' : ∀ mode, x.2 ≠ .other mode) (hy' : ∀ mode, y.2 ≠ .other mode)
    (h : assetEntry sha256 x = assetEntry sha256 y) : x = y := by
  obtain ⟨path, item⟩ := x
  obtain ⟨path', item'⟩ := y
  dsimp only at hx hy hx' hy'
  have hpaths : asPosix path = asPosix path' := by
    have := congrArg AssetEntry.path h
    cases item <;> cases item' <;> exact this
  have hpath : path = path' := by
    rw [← posixParts_asPosix hx, ← posixParts_asPosix hy, hpaths]
  subst hpath
  cases item with
  | other mode => exact absurd rfl (hx' mode)
  | file mode content =>
    cases item' with
    | other mode' => exact absurd rfl (hy' mode')
    | directory mode' => simp [assetEntry] at h
    | file mode' content' =>
      simp only [assetEntry, digestFileDescriptor, AssetEntry.mk.injEq, Option.some.injEq] at h
      rw [h.2.2.1, hsha h.2.2.2.2]
  | directory mode =>
    cases item' with
    | other mode' => exact absurd rfl (hy' mode')
    | file mode' content' => simp [assetEntry] at h
    | directory mode' =>
      simp only [assetEntry, AssetEntry.mk.injEq] at h
      rw [h.2.2.1]

/-- What the digest of a directory is taken of. -/
def assetMaterial (sha256 : Bytes → Digest) (a : AssetNode) : Bytes :=
  manifestMaterial a.mode ((a.listing []).map (assetEntry sha256))

/-- Plain directories with one listing are one asset. -/
lemma sameAsset_of_material_eq (hsha : Function.Injective sha256) {a b : AssetNode}
    (ha : a.isDirectory = true) (hb : b.isDirectory = true) (hplain : a.Plain) (hplain' : b.Plain)
    (h : assetMaterial sha256 a = assetMaterial sha256 b) : a.SameAsset b := by
  obtain ⟨hmode, hlines⟩ := manifestMaterial_inj h
  -- what stands below the one stands below the other
  have hbelow {c d : AssetNode} (hc : c.Plain) (hd : d.Plain)
      (hlines : (c.listing []).map (assetEntry sha256) = (d.listing []).map (assetEntry sha256))
      {name : String} {rest : List String} {item : AssetItem}
      (hitem : c.at? (name :: rest) = some item) : d.at? (name :: rest) = some item := by
    have hmem : (name :: rest, item) ∈ c.listing [] :=
      AssetNode.mem_listing.mpr ⟨name, rest, rfl, hitem⟩
    obtain ⟨⟨path, item'⟩, hmem', hentry⟩ :=
      List.mem_map.mp (hlines ▸ List.mem_map_of_mem (f := assetEntry sha256) hmem)
    obtain ⟨name', rest', hpath, hitem'⟩ := AssetNode.mem_listing.mp hmem'
    rw [List.nil_append] at hpath
    subst hpath
    obtain ⟨hparts, hother⟩ := hc.at? hitem
    obtain ⟨hparts', hother'⟩ := hd.at? hitem'
    have heq := assetEntry_inj hsha hparts' hparts hother' hother hentry
    rw [Prod.mk.injEq] at heq
    rw [← heq.1, ← heq.2, hitem']
  intro path
  cases path with
  | nil =>
    rw [AssetNode.at?_nil, AssetNode.at?_nil]
    cases a <;> cases ha
    cases b <;> cases hb
    exact congrArg (some ∘ AssetItem.directory) hmode
  | cons name rest =>
    ext item
    exact ⟨hbelow hplain hplain' hlines, hbelow hplain' hplain hlines.symm⟩

variable {digest : Digest}

lemma captureAssetDescriptor_file {mode links : Nat} {content : Bytes}
    (h : captureAssetDescriptor sha256 (.file mode links content) = .ok digest) :
    links = 1 ∧ digest = sha256 content := by
  rw [captureAssetDescriptor, requireAssetMode, raiseIf_bind_eq_ok] at h
  obtain ⟨-, h⟩ := h
  obtain ⟨budget, -, h⟩ := bind_eq_ok.mp h
  dsimp only at h
  rw [requireSingleLink, raiseIf_bind_eq_ok] at h
  exact ⟨not_not.mp fun hne => h.1 ⟨rfl, hne⟩, (Except.ok.inj h.2).symm⟩

lemma captureAssetDescriptor_directory {a : AssetNode} (ha : a.isDirectory = true)
    (h : captureAssetDescriptor sha256 a = .ok digest) :
    a.Plain ∧ digest = sha256 (assetMaterial sha256 a) := by
  rw [captureAssetDescriptor, requireAssetMode, raiseIf_bind_eq_ok] at h
  obtain ⟨-, h⟩ := h
  obtain ⟨budget, -, h⟩ := bind_eq_ok.mp h
  cases a with
  | file => cases ha
  | other => cases ha
  | directory mode names distinct child =>
    obtain ⟨entries, hentries, h⟩ := bind_eq_ok.mp h
    obtain ⟨hlines, hplain⟩ := directoryEntries_eq_ok rfl hentries
    refine ⟨hplain, (Except.ok.inj h).symm.trans ?_⟩
    rw [manifestDigest, hlines]
    rfl

lemma captureAssetDescriptor_other {mode : Nat} :
    captureAssetDescriptor sha256 (.other mode) ≠ .ok digest := by
  intro h
  rw [captureAssetDescriptor, requireAssetMode, raiseIf_bind_eq_ok] at h
  obtain ⟨budget, -, h⟩ := bind_eq_ok.mp h.2
  cases h

end Capture

/-! ### Transfer into a virtual machine -/

structure VmTreeEntry where
  path : String
  kind : AssetEntryKind
  mode : Nat
  blob : Option Bytes := none
deriving DecidableEq

structure VmTransferTree where
  target : String
  readonly : Bool
  rootIsFile : Bool := false
  rootMode : Nat
  rootBlob : Option Bytes := none
  entries : List VmTreeEntry := []
deriving DecidableEq

def wireMode (mode : Nat) : Nat := if mode &&& 0o100 ≠ 0 then 0o700 else 0o600

/-- An error message of an executor that is not available. -/
abbrev ExecutorUnavailable := String

def readStableFile (content : Bytes) (byteLimit : Nat) : Except ExecutorUnavailable Bytes := do
  raiseIf (byteLimit < content.length) "VM transfer exceeds its fixed input bound"
  pure content

def packDirectory : AssetNode → List String → Nat →
    Except ExecutorUnavailable (List VmTreeEntry × Nat)
  | .directory _ names _ child, pre, byteLimit =>
    (sortedStrings names).foldlM (fun (state : List VmTreeEntry × Nat) name => do
      raiseIf (name = "" ∨ name = "." ∨ name = ".." ∨ '/' ∈ name.toList)
        "VM workspace contains an invalid entry"
      match child name with
      | .directory mode _ _ _ =>
        let below ← packDirectory (child name) (pre ++ [name]) (byteLimit - state.2)
        pure (state.1 ++ [⟨asPosix (pre ++ [name]), .directory, wireMode mode, none⟩] ++ below.1,
          state.2 + below.2)
      | .file mode links content => do
        raiseIf (links ≠ 1) "VM workspaces cannot contain links or special files"
        let content ← readStableFile content (byteLimit - state.2)
        pure (state.1 ++ [⟨asPosix (pre ++ [name]), .file, wireMode mode, some content⟩],
          state.2 + content.length)
      | .other _ => .error "VM workspaces cannot contain links or special files") ([], 0)
  | .file _ _ _, _, _ | .other _, _, _ => pure ([], 0)

def packTransferTree (target : String) (readonly : Bool) (byteLimit : Nat) (a : AssetNode) :
    Except ExecutorUnavailable (VmTransferTree × Nat) :=
  match a with
  | .file mode _ content => do
    let content ← readStableFile content byteLimit
    pure ({ target, readonly, rootIsFile := true, rootMode := wireMode mode,
            rootBlob := some content }, content.length)
  | .directory mode _ _ _ => do
    let packed ← packDirectory a [] byteLimit
    pure ({ target, readonly, rootMode := wireMode mode, entries := packed.1 }, packed.2)
  | .other _ => .error "VM transfer root is not a regular file or directory"

lemma foldlM_congr_mem {σ α ε : Type} {f g : σ → α → Except ε σ} {xs : List α} {s : σ}
    (h : ∀ s, ∀ x ∈ xs, f s x = g s x) : xs.foldlM f s = xs.foldlM g s := by
  induction xs generalizing s with
  | nil => rfl
  | cons x xs ih =>
    rw [List.foldlM_cons, List.foldlM_cons, h s x List.mem_cons_self]
    refine bind_congr fun s' => ?_
    exact ih fun s y hy => h s y (List.mem_cons_of_mem x hy)

namespace AssetNode.SameAsset

variable {a b : AssetNode}

lemma item (h : a.SameAsset b) : a.item = b.item := by
  have hroot := h []
  rwa [at?_nil, at?_nil, Option.some.injEq] at hroot

/-- The two sides of an entry of both. -/
lemma child {mode mode' : Nat} {names names' : List String} {distinct : names.Nodup}
    {distinct' : names'.Nodup} {child child' : String → AssetNode}
    (h : (directory mode names distinct child).SameAsset
      (directory mode' names' distinct' child')) :
    sortedStrings names = sortedStrings names' ∧
      ∀ name ∈ names, name ∈ names' ∧ (child name).SameAsset (child' name) := by
  have hmem (name : String) : name ∈ names ↔ name ∈ names' := by
    have hname := h [name]
    simp only [at?, at?_nil] at hname
    split_ifs at hname with hin hin' hin'
    · exact iff_of_true hin hin'
    · exact iff_of_false hin hin'
  refine ⟨sortedStrings_eq_of_perm ((List.perm_ext_iff_of_nodup distinct distinct').mpr hmem),
    fun name hname => ⟨(hmem name).mp hname, fun path => ?_⟩⟩
  have hpath := h (name :: path)
  rwa [at?, at?, if_pos hname, if_pos ((hmem name).mp hname)] at hpath

/-- Plain trees that are the same asset are packed into the same tree. -/
lemma packDirectory_eq (h : a.SameAsset b) (ha : a.Plain) (hb : b.Plain) (pre : List String)
    (byteLimit : Nat) : packDirectory a pre byteLimit = packDirectory b pre byteLimit := by
  induction a generalizing b pre byteLimit with
  | file mode links content =>
    have hitem := h.item
    cases b with
    | file => rfl
    | directory | other => cases hitem
  | other mode => exact absurd ha id
  | directory mode names distinct child ih =>
    have hitem := h.item
    cases b with
    | file | other => cases hitem
    | directory mode' names' distinct' child' =>
      obtain ⟨hnames, hchild⟩ := h.child
      rw [packDirectory, packDirectory, hnames]
      refine foldlM_congr_mem fun state name hname => ?_
      have hname' : name ∈ names := mem_sortedStrings.mp (hnames ▸ hname)
      obtain ⟨hmem, hsame⟩ := hchild name hname'
      have hbelow := ih name hsame (ha name hname').2 (hb name hmem).2
      have hplain := (ha name hname').2
      have hplain' := (hb name hmem).2
      refine bind_congr fun _ => ?_
      have hitem' := hsame.item
      generalize child name = node at hbelow hplain hitem' ⊢
      generalize child' name = node' at hbelow hplain' hitem' ⊢
      cases node with
      | other => exact absurd hplain id
      | file fileMode links content =>
        cases node' with
        | directory | other => cases hitem'
        | file fileMode' links' content' =>
          obtain ⟨rfl, rfl⟩ : fileMode = fileMode' ∧ content = content' := by
            simpa [AssetNode.item] using hitem'
          rw [show links = 1 from hplain, show links' = 1 from hplain']
      | directory directoryMode childNames _ _ =>
        cases node' with
        | file | other => cases hitem'
        | directory directoryMode' childNames' _ _ =>
          obtain rfl : directoryMode = directoryMode' := by simpa [AssetNode.item] using hitem'
          simp only [hbelow]

lemma packTransferTree_eq (h : a.SameAsset b) (ha : a.Plain) (hb : b.Plain) (target : String)
    (readonly : Bool) (byteLimit : Nat) :
    packTransferTree target readonly byteLimit a =
      packTransferTree target readonly byteLimit b := by
  have hitem := h.item
  have hbelow := h.packDirectory_eq ha hb [] byteLimit
  cases a with
  | other => exact absurd ha id
  | file mode links content =>
    cases b with
    | directory | other => cases hitem
    | file mode' links' content' =>
      obtain ⟨rfl, rfl⟩ : mode = mode' ∧ content = content' := by
        simpa [AssetNode.item] using hitem
      rfl
  | directory mode names distinct child =>
    cases b with
    | file | other => cases hitem
    | directory mode' names' distinct' child' =>
      obtain rfl : mode = mode' := by simpa [AssetNode.item] using hitem
      rw [packTransferTree, packTransferTree, hbelow]

end AssetNode.SameAsset

/-! ### Completeness -/

/-- Two roots whose digests cannot be taken for each other: files of one content have one mode, and
no file is made of the bytes that stand for the other, a directory. -/
def RootsApart (sha256 : Bytes → Digest) : AssetNode → AssetNode → Prop
  | .file mode _ content, .file mode' _ content' => content = content' → mode = mode'
  | .file _ _ content, .directory mode names distinct child
  | .directory mode names distinct child, .file _ _ content =>
    content ≠ assetMaterial sha256 (.directory mode names distinct child)
  | _, _ => True

/-- Two assets with one digest are the same asset, and are transferred as one, exactly when their
roots are apart. -/
theorem capture_complete_iff {sha256 : Bytes → Digest} (hsha : Function.Injective sha256)
    {a b : AssetNode} {digest digest' : Digest}
    (ha : captureAssetDescriptor sha256 a = .ok digest)
    (hb : captureAssetDescriptor sha256 b = .ok digest') :
    (digest = digest' → a.SameAsset b ∧ ∀ target readonly byteLimit,
      packTransferTree target readonly byteLimit a =
        packTransferTree target readonly byteLimit b) ↔ RootsApart sha256 a b := by
  cases a with
  | other => exact absurd ha captureAssetDescriptor_other
  | file mode links content =>
    obtain ⟨hlinks, rfl⟩ := captureAssetDescriptor_file ha
    cases b with
    | other => exact absurd hb captureAssetDescriptor_other
    | file mode' links' content' =>
      obtain ⟨hlinks', rfl⟩ := captureAssetDescriptor_file hb
      rw [RootsApart, hsha.eq_iff]
      constructor
      · intro h heq
        have hitem := (h heq).1.item
        simp only [AssetNode.item, AssetItem.file.injEq] at hitem
        exact hitem.1
      · rintro hmode rfl
        obtain rfl := hmode rfl
        have hsame : (AssetNode.file mode links content).SameAsset (.file mode links' content) := by
          intro path
          cases path <;> rfl
        exact ⟨hsame, hsame.packTransferTree_eq hlinks hlinks'⟩
    | directory mode' names distinct child =>
      obtain ⟨-, rfl⟩ := captureAssetDescriptor_directory rfl hb
      rw [RootsApart, hsha.eq_iff]
      constructor
      · exact fun h heq => by cases (h heq).1.item
      · exact fun hne heq => absurd heq hne
  | directory mode names distinct child =>
    obtain ⟨hplain, rfl⟩ := captureAssetDescriptor_directory rfl ha
    cases b with
    | other => exact absurd hb captureAssetDescriptor_other
    | file mode' links' content' =>
      obtain ⟨-, rfl⟩ := captureAssetDescriptor_file hb
      rw [RootsApart, hsha.eq_iff]
      constructor
      · exact fun h heq => by cases (h heq.symm).1.item
      · exact fun hne heq => absurd heq.symm hne
    | directory mode' names' distinct' child' =>
      obtain ⟨hplain', rfl⟩ := captureAssetDescriptor_directory rfl hb
      rw [hsha.eq_iff]
      refine iff_of_true (fun heq => ?_) True.intro
      have hsame := sameAsset_of_material_eq hsha rfl rfl hplain hplain' heq
      exact ⟨hsame, hsame.packTransferTree_eq hplain hplain'⟩

/-- A digest function that is injective. -/
def bytesAsDigest (content : Bytes) : Digest :=
  String.ofList (content.map fun b => Char.ofNat b.toNat)

lemma toNat_ofNat_of_lt : ∀ n < 256, (Char.ofNat n).toNat = n := by
  decide +kernel

lemma bytesAsDigest_injective : Function.Injective bytesAsDigest := by
  intro content content' h
  refine List.map_injective_iff.mpr (fun b b' hb => ?_) (String.ofList_injective h)
  have hval := congrArg Char.toNat hb
  rw [toNat_ofNat_of_lt _ b.toNat_lt, toNat_ofNat_of_lt _ b'.toNat_lt] at hval
  exact UInt8.toNat_inj.mp hval

/-- A program beside its library, listed in some order. -/
def toolTree (names : List String) (h : names.Nodup) : AssetNode :=
  .directory 0o755 names h fun name =>
    if name = "run" then .file 0o755 1 [0x23, 0x21]
    else .directory 0o755 ["a.v"] (List.nodup_singleton _) fun _ => .file 0o644 1 [0x23]

theorem toolTree_captured_whole :
    ∃ digest, captureAssetDescriptor bytesAsDigest (toolTree ["run", "lib"] (by decide)) =
        .ok digest ∧
      captureAssetDescriptor bytesAsDigest (toolTree ["lib", "run"] (by decide)) = .ok digest ∧
      (toolTree ["run", "lib"] (by decide)).SameAsset (toolTree ["lib", "run"] (by decide)) ∧
      ∀ target readonly byteLimit,
        packTransferTree target readonly byteLimit (toolTree ["run", "lib"] (by decide)) =
          packTransferTree target readonly byteLimit (toolTree ["lib", "run"] (by decide)) := by
  have hsame : (captureAssetDescriptor bytesAsDigest (toolTree ["run", "lib"] (by decide))).isOk =
      true ∧
      (captureAssetDescriptor bytesAsDigest (toolTree ["run", "lib"] (by decide))).toOption =
        (captureAssetDescriptor bytesAsDigest (toolTree ["lib", "run"] (by decide))).toOption := by
    decide +kernel
  obtain ⟨hok, hsame⟩ := hsame
  obtain ⟨digest, hdigest⟩ := Except.exists_of_isOk hok
  rw [hdigest] at hsame
  cases hother : captureAssetDescriptor bytesAsDigest (toolTree ["lib", "run"] (by decide)) with
  | error e =>
    rw [hother] at hsame
    cases hsame
  | ok digest' =>
    rw [hother] at hsame
    obtain rfl := Option.some.inj hsame
    exact ⟨digest, hdigest, rfl,
      (capture_complete_iff bytesAsDigest_injective hdigest hother).mpr trivial rfl⟩

/-- Two files of one content, of which one is executable. -/
def plainTool : AssetNode := .file 0o644 1 [0x23, 0x21]

def executableTool : AssetNode := .file 0o755 1 [0x23, 0x21]

/-- One digest stands for both files, and their copies in a virtual machine differ. -/
theorem capture_hides_root_mode : Function.Injective bytesAsDigest ∧ ∃ digest,
    captureAssetDescriptor bytesAsDigest plainTool = .ok digest ∧
      captureAssetDescriptor bytesAsDigest executableTool = .ok digest ∧
      ¬ plainTool.SameAsset executableTool ∧
      packTransferTree "/tool" true 64 plainTool ≠
        packTransferTree "/tool" true 64 executableTool := by
  refine ⟨bytesAsDigest_injective, bytesAsDigest [0x23, 0x21], rfl, rfl, fun h => ?_, by decide⟩
  cases h.item

end EdaGym
