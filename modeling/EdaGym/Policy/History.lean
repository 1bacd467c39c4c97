import EdaGym.Policy.ObjectScan

/-!
# The history of a repository

The database of a repository holds commits, each with a tree whose recursive listing gives its
paths. A scan of the whole database without a finding says which of these paths may be published.
-/

namespace EdaGym

/-! ### Repositories -/

/-- An object of the database. -/
structure GitObject where
  objectId : GitObjectId
  objectType : ObjectType
  content : Bytes

/-- The objects of a repository, with the format of their ids. -/
structure GitDatabase where
  format : GitObjectFormat
  objects : List GitObject

def octalDigits : Nat → Bytes → Option Nat
  | value, [] => some value
  | value, b :: rest =>
    if 48 ≤ b ∧ b ≤ 55 then octalDigits (8 * value + (b.toNat - 48)) rest else none

/-- What Git takes for the mode of a directory: octal digits whose file type is that of a
directory. -/
def isTreeMode (mode : Bytes) : Bool :=
  match octalDigits 0 mode with
  | some value => value / 4096 % 16 = 4
  | none => false

def hexByte (b : UInt8) : Bytes :=
  let digit (n : UInt8) : UInt8 := if n < 10 then 48 + n else 87 + n
  [digit (b / 16), digit (b % 16)]

/-- `bytes.hex` of an object id. -/
def hexOf (objectId : Bytes) : GitObjectId := objectId.flatMap hexByte

/-- The entries of a tree of the database. -/
def GitDatabase.HasTree (db : GitDatabase) (treeId : GitObjectId) (entries : List GitTreeEntry) :
    Prop :=
  ∃ content, ⟨treeId, .tree, content⟩ ∈ db.objects ∧
    TreeHolds db.format.hashWidth content entries

/-- The recursive listing of a tree, each path as its entries. -/
inductive GitDatabase.Lists (db : GitDatabase) : GitObjectId → List GitTreeEntry → Prop
  | leaf {treeId : GitObjectId} {entries : List GitTreeEntry} {entry : GitTreeEntry}
      (tree : db.HasTree treeId entries) (mem : entry ∈ entries)
      (file : isTreeMode entry.mode = false) : Lists db treeId [entry]
  | under {treeId : GitObjectId} {entries path : List GitTreeEntry} {entry : GitTreeEntry}
      (tree : db.HasTree treeId entries) (mem : entry ∈ entries)
      (directory : isTreeMode entry.mode = true) (rest : Lists db (hexOf entry.objectId) path) :
      Lists db treeId (entry :: path)

/-- A tree that a commit of the database names. -/
def GitDatabase.IsRootTree (db : GitDatabase) (treeId : GitObjectId) : Prop :=
  ∃ commit ∈ db.objects, commit.objectType = .commit ∧ commitTree commit.content = .ok treeId

/-- A path of a commit of the database. -/
def GitDatabase.CommitPath (db : GitDatabase) (path : List GitTreeEntry) : Prop :=
  ∃ treeId, db.IsRootTree treeId ∧ db.Lists treeId path

/-- What the object commands say of a database: every object is listed, and what is read of it is
its content. -/
structure GitDatabase.Reported (db : GitDatabase) (descriptions : List ObjectDescription)
    (process : CatFile) : Prop where
  format : process.objectFormat = .ok db.format
  described : ∀ object ∈ db.objects,
    ⟨object.objectId, object.objectType, object.content.length⟩ ∈ descriptions
  content : ∀ object ∈ db.objects, (process.reply object.objectId).reads.flatten = object.content

section Listing

variable {db : GitDatabase} {treeId : GitObjectId} {path : List GitTreeEntry}

lemma GitDatabase.Lists.ne_nil (h : db.Lists treeId path) : path ≠ [] := by
  cases h <;> exact List.cons_ne_nil _ _

lemma GitDatabase.Lists.head_mem (h : db.Lists treeId path) :
    ∃ entries, db.HasTree treeId entries ∧ path.head h.ne_nil ∈ entries := by
  cases h with
  | leaf tree mem _ => exact ⟨_, tree, mem⟩
  | under tree mem _ _ => exact ⟨_, tree, mem⟩

lemma GitDatabase.Lists.mem (h : db.Lists treeId path) :
    ∀ entry ∈ path, ∃ treeId entries, db.HasTree treeId entries ∧ entry ∈ entries := by
  induction h with
  | leaf tree mem _ =>
    intro entry hentry
    rw [List.mem_singleton.mp hentry]
    exact ⟨_, _, tree, mem⟩
  | under tree mem _ _ ih =>
    rw [List.forall_mem_cons]
    exact ⟨⟨_, _, tree, mem⟩, ih⟩

end Listing

/-! ### What a scan keeps of an object -/

lemma flatten_objectChunks {remaining : Nat} {reads chunks : List Bytes}
    (h : objectChunks remaining reads = .ok chunks) (hlength : reads.flatten.length ≤ remaining) :
    chunks.flatten = reads.flatten := by
  induction reads generalizing remaining chunks with
  | nil =>
    cases remaining with
    | zero =>
      cases h
      rfl
    | succ remaining => cases h
  | cons chunk reads ih =>
    cases remaining with
    | zero =>
      cases h
      exact (List.length_eq_zero_iff.mp (Nat.le_zero.mp hlength)).symm
    | succ remaining =>
      rw [objectChunks] at h
      simp only [bind_eq_ok, raiseIf_eq_ok, exists_const, pure_eq_ok] at h
      obtain ⟨hne, rest, hrest, rfl⟩ := h
      rw [List.flatten_cons, List.length_append] at hlength
      rw [List.flatten_cons, List.flatten_cons, ih hrest (by omega)]

lemma metadataOf_eq (chunks : List Bytes) :
    metadataOf chunks = chunks.flatten.take METADATA_PREFIX_SIZE := by
  rw [metadataOf]
  induction chunks using List.reverseRecOn with
  | nil => rw [List.foldl_nil, List.flatten_nil, List.take_nil]
  | append_singleton chunks chunk ih =>
    rw [List.foldl_append, ih, List.flatten_append, List.flatten_singleton, List.foldl_cons,
      List.foldl_nil, List.take_append, List.length_take]
    split_ifs with hshort
    · have hlength : chunks.flatten.length < METADATA_PREFIX_SIZE := by
        rw [Nat.min_def] at hshort
        split_ifs at hshort <;> omega
      rw [Nat.min_eq_right (Nat.le_of_lt hlength)]
    · have hlength : METADATA_PREFIX_SIZE ≤ chunks.flatten.length := by
        rw [Nat.min_def] at hshort
        split_ifs at hshort <;> omega
      rw [Nat.sub_eq_zero_of_le hlength, List.take_zero, List.append_nil]

/-- The head of a commit names its tree. -/
lemma commitTree_take {content : Bytes} {n : Nat} {treeId : GitObjectId}
    (h : commitTree (content.take n) = .ok treeId) : commitTree content = .ok treeId := by
  rw [commitTree] at h
  split at h
  · cases h
  · rename_i firstLine rest hline
    obtain ⟨hnot, htake⟩ := partitionAt_eq_some.mp hline
    have hfull : partitionAt LF content = some (firstLine, rest ++ content.drop n) := by
      refine partitionAt_eq_some.mpr ⟨hnot, ?_⟩
      conv_lhs => rw [← List.take_append_drop n content, htake]
      simp
    rw [commitTree, hfull]
    exact h

section Scans

variable [PathText] [ContentRules] {descriptions : List ObjectDescription} {scans : List ObjectScan}
  {process : CatFile}

lemma mem_scanLoop {format : GitObjectFormat}
    (h : scanLoop format process descriptions = .ok scans) :
    ∀ description ∈ descriptions, ∃ scan ∈ scans,
      scanObject format process description = .ok scan := by
  induction descriptions generalizing scans with
  | nil => simp
  | cons description descriptions ih =>
    rw [scanLoop] at h
    simp only [bind_eq_ok, pure_eq_ok] at h
    obtain ⟨scan, hscan, rest, hrest, rfl⟩ := h
    rw [List.forall_mem_cons]
    refine ⟨⟨scan, List.mem_cons_self .., hscan⟩, ?_⟩
    intro d hd
    obtain ⟨s, hs, heq⟩ := ih hrest d hd
    exact ⟨s, List.mem_cons_of_mem _ hs, heq⟩

/-- Every object of a reported database has its scan. -/
lemma GitDatabase.Reported.scan {db : GitDatabase}
    (hreported : db.Reported descriptions process)
    (h : scanObjects process descriptions = .ok scans) {object : GitObject}
    (hobject : object ∈ db.objects) :
    ∃ scan ∈ scans, ∃ chunks seen, chunks.flatten = object.content ∧
      scanTree db.format object.objectType chunks = .ok seen ∧
      scanCommit object.objectType (metadataOf chunks) = .ok scan.commitTreeId ∧
      scan.objectId = object.objectId ∧ scan.treeHits = seen.hits ∧
      scan.rootTreeHits = seen.rootHits ∧ scan.hasTempTree = seen.hasTempTree := by
  have hdescribed := hreported.described object hobject
  rw [scanObjects, if_neg (List.ne_nil_of_mem hdescribed)] at h
  simp only [hreported.format, bind_eq_ok, raiseIf_eq_ok, exists_const, pure_eq_ok, Except.ok.injEq,
    exists_eq_left'] at h
  obtain ⟨loop, hloop, -, rfl⟩ := h
  obtain ⟨scan, hmem, hscan⟩ := mem_scanLoop hloop _ hdescribed
  rw [scanObject] at hscan
  simp only [bind_eq_ok, orRaise_eq_ok] at hscan
  obtain ⟨⟨returnedId, objectType, size⟩, -, hcontent⟩ := hscan
  simp only [scanAnswered, bind_eq_ok, raiseIf_eq_ok, exists_const, pure_eq_ok, not_or,
    not_not] at hcontent
  obtain ⟨-, ⟨rfl, hsize⟩, chunks, hchunks, -, seen, hseen, treeId, htree, rfl⟩ := hcontent
  have hreads := hreported.content object hobject
  have hflatten : chunks.flatten = object.content := by
    rw [← hreads]
    refine flatten_objectChunks hchunks ?_
    rw [hreads]
    by_cases hzero : object.content.length = 0
    · rw [hzero]
      exact Nat.zero_le _
    · exact Nat.le_of_eq (not_not.mp (fun hne => hsize ⟨hzero, Ne.symm hne⟩))
  exact ⟨_, hmem, chunks, seen, hflatten, hseen, htree, rfl, rfl, rfl, rfl⟩

/-- The scans of a reported database find nothing in the entries of its trees. -/
lemma entries_of_no_findings {db : GitDatabase}
    (hreported : db.Reported descriptions process)
    (h : scanObjects process descriptions = .ok scans) (hnone : addObjectFindings scans = [])
    {treeId : GitObjectId} {entries : List GitTreeEntry} (htree : db.HasTree treeId entries) :
    (∀ entry ∈ entries, entry.hits = []) ∧
      (db.IsRootTree treeId →
        ∀ entry ∈ entries, entry.rootHits = [] ∧ entry.isTempTree = false) := by
  obtain ⟨content, hobject, hholds⟩ := htree
  obtain ⟨scan, hmem, chunks, seen, hflatten, hseen, -, hid, hhits, hroot, htemp⟩ :=
    hreported.scan h hobject
  obtain ⟨entries', hholds', rfl⟩ := parseTree_eq_ok.mp ((if_pos rfl).symm.trans hseen)
  have hentries : entries' = entries := by
    rw [hflatten] at hholds'
    refine ((treeFormat db.format.hashWidth).stream_inj hholds'.1 hholds.1
      ((treeFormat db.format.hashWidth).next_nil) ?_).1
    rw [List.append_nil]
    exact hholds'.2.symm.trans hholds.2
  subst hentries
  have hfindings := List.flatMap_eq_nil_iff.mp hnone scan hmem
  simp only [objectFindings, List.append_eq_nil_iff] at hfindings
  obtain ⟨⟨⟨hrootFindings, -⟩, htreeFindings⟩, htempFindings⟩ := hfindings
  refine ⟨?_, ?_⟩
  · rw [List.map_eq_nil_iff, hhits] at htreeFindings
    exact List.flatMap_eq_nil_iff.mp htreeFindings
  · rintro ⟨commit, hcommit, htype, hcommitTree⟩ entry hentry
    obtain ⟨commitScan, hcommitMem, commitChunks, -, hcommitFlatten, -, hcommitId, -⟩ :=
      hreported.scan h hcommit
    have hisRoot : scan.objectId ∈ commitRootTrees scans := by
      rw [scanCommit, if_pos htype, metadataOf_eq, hcommitFlatten] at hcommitId
      cases hhead : commitTree (commit.content.take METADATA_PREFIX_SIZE) with
      | error e =>
        rw [hhead] at hcommitId
        cases hcommitId
      | ok found =>
        rw [hhead] at hcommitId
        have hfound : found = treeId := by
          rw [commitTree_take hhead] at hcommitTree
          exact Except.ok.inj hcommitTree
        rw [hid, commitRootTrees, List.mem_filterMap]
        exact ⟨commitScan, hcommitMem, by rw [← Except.ok.inj hcommitId, hfound]⟩
    rw [if_pos hisRoot, List.map_eq_nil_iff, hroot] at hrootFindings
    refine ⟨List.flatMap_eq_nil_iff.mp hrootFindings entry hentry, ?_⟩
    have hnoTemp : scan.hasTempTree = false := by
      cases htempTree : scan.hasTempTree with
      | false => rfl
      | true =>
        rw [if_pos ⟨hisRoot, htempTree⟩] at htempFindings
        cases htempFindings
    rw [htemp] at hnoTemp
    cases hentryTemp : entry.isTempTree with
    | false => rfl
    | true =>
      have hany : (treeHits entries').hasTempTree = true :=
        List.any_eq_true.mpr ⟨entry, hentry, hentryTemp⟩
      rw [hnoTemp] at hany
      cases hany

end Scans

/-! ### Paths of the history -/

section Paths

variable [PathText]

/-- The path as `ls-tree -r -z` writes it, decoded. -/
def pathText (path : List GitTreeEntry) : Text :=
  fsdecode ([SLASH].intercalate (path.map GitTreeEntry.rawName))

lemma pathText_eq (path : List GitTreeEntry) (hne : path ≠ []) :
    pathText path = joinNames (path.map GitTreeEntry.name) := by
  rw [pathText, joinNames]
  induction path with
  | nil => exact absurd rfl hne
  | cons entry path ih =>
    cases path with
    | nil => simp [GitTreeEntry.name]
    | cons entry' path =>
      have hrest := ih (List.cons_ne_nil _ _)
      simp only [List.map_cons] at hrest ⊢
      rw [List.intercalate_cons_cons, List.intercalate_cons_cons, ← hrest, List.append_assoc,
        List.singleton_append, fsdecode_slash, List.append_assoc, List.singleton_append]
      rfl

/-- A part of a path, with the entry that names it. -/
structure PathPart where
  entry : GitTreeEntry
  part : Text
  /-- It is the last part of the entry's name. -/
  isLast : Bool

namespace PathPart

/-- The part is the whole name of what the parser takes for a directory. -/
def IsDirectory (p : PathPart) : Prop := p.entry.isDirectory = true ∧ p.entry.name = p.part

/-- The parser has asked whether a directory of this name is sensitive. -/
def Asked (p : PathPart) : Prop :=
  if p.isLast then p.IsDirectory else ¬ HidesParts p.entry.name

instance (p : PathPart) : Decidable p.IsDirectory := inferInstanceAs (Decidable (_ ∧ _))

end PathPart

def GitTreeEntry.parts (entry : GitTreeEntry) : List PathPart :=
  ((namePieces entry.name).dropLast.map fun part => ⟨entry, part, false⟩) ++
    (namePieces entry.name).getLast?.toList.map fun part => ⟨entry, part, true⟩

/-- The parts of a path behind its root. -/
def treePathParts (path : List GitTreeEntry) : List PathPart := path.flatMap GitTreeEntry.parts

lemma GitTreeEntry.map_parts (entry : GitTreeEntry) :
    entry.parts.map PathPart.part = namePieces entry.name := by
  rw [parts, List.map_append, List.map_map, List.map_map]
  cases hlast : (namePieces entry.name).getLast? with
  | none => simp [List.getLast?_eq_none_iff.mp hlast]
  | some part =>
    conv_rhs => rw [← List.dropLast_append_getLast? part hlast]
    simp [Function.comp_def]

lemma map_treePathParts {path : List GitTreeEntry} (hne : path ≠ []) :
    (treePathParts path).map PathPart.part = namePieces (pathText path) := by
  rw [namePieces, pathText_eq path hne, pathPieces_joinNames, treePathParts, List.map_flatMap,
    List.flatMap_map]
  exact List.flatMap_congr fun entry _ => entry.map_parts

lemma mem_treePathParts {path : List GitTreeEntry} {p : PathPart} (h : p ∈ treePathParts path) :
    p.entry ∈ path ∧
      (p.isLast = true → p.part ∈ (namePieces p.entry.name).getLast?) ∧
      (p.isLast = false → p.part ∈ (namePieces p.entry.name).dropLast) := by
  obtain ⟨entry, hentry, hp⟩ := List.mem_flatMap.mp h
  rcases List.mem_append.mp hp with hp | hp
  · obtain ⟨part, hpart, rfl⟩ := List.mem_map.mp hp
    exact ⟨hentry, fun h => Bool.noConfusion h, fun _ => hpart⟩
  · obtain ⟨part, hpart, rfl⟩ := List.mem_map.mp hp
    exact ⟨hentry, fun _ => Option.mem_toList.mp hpart, fun h => Bool.noConfusion h⟩

/-- The last part of a path is the last one of a name. -/
lemma isLast_of_getLast? {path : List GitTreeEntry} {p : PathPart}
    (h : p ∈ (treePathParts path).getLast?) : p.isLast = true := by
  induction path using List.reverseRecOn with
  | nil => cases h
  | append_singleton path entry ih =>
    rw [treePathParts, List.flatMap_append, List.flatMap_singleton, List.getLast?_append] at h
    cases hlast : (namePieces entry.name).getLast? with
    | none =>
      have hnil : entry.parts = [] := by
        rw [GitTreeEntry.parts, List.getLast?_eq_none_iff.mp hlast]
        rfl
      rw [hnil] at h
      exact ih h
    | some part =>
      rw [GitTreeEntry.parts, hlast] at h
      simp only [Option.toList_some, List.map_singleton, List.getLast?_concat, Option.some_or,
        Option.mem_some_iff] at h
      rw [← h]

/-- What the audit of the tip would say of every path of every commit. -/
def GitDatabase.Publishable (db : GitDatabase) : Prop :=
  ∀ path, db.CommitPath path → auditPath (pathText path) = []

/-- What the scan of the history does not ask of the parts of the paths: whether the first one is
reserved, unless it is a directory of the root's tree; whether one before the last is a sensitive
directory, unless it is a directory of this name or stands in a name that hides nothing; and
whether the last one is sensitive where it stands in a name that hides it. -/
structure GitDatabase.NoGap (db : GitDatabase) : Prop where
  root : ∀ path, db.CommitPath path → pathRoot (forwardSlashes (pathText path)) = [] →
    ∀ p ∈ (treePathParts path).head?, ¬ (p.IsDirectory ∧ path.head? = some p.entry) →
      ¬ ReservedRoot p.part
  directory : ∀ path, db.CommitPath path → ∀ p ∈ (treePathParts path).dropLast, ¬ p.Asked →
    casefold p.part ∉ SENSITIVE_DIRECTORY_NAMES
  last : ∀ path, db.CommitPath path → ∀ p ∈ (treePathParts path).getLast?, HidesParts p.entry.name →
    basenameRule (casefold p.part) = none

/-- A path is judged by its parts. -/
lemma auditPath_pathText {path : List GitTreeEntry} (hne : path ≠ []) :
    auditPath (pathText path) = [] ↔
      (pathRoot (forwardSlashes (pathText path)) = [] →
        ∀ p ∈ (treePathParts path).head?, ¬ ReservedRoot p.part) ∧
      (∀ p ∈ (treePathParts path).dropLast, casefold p.part ∉ SENSITIVE_DIRECTORY_NAMES) ∧
      ∀ p ∈ (treePathParts path).getLast?, basenameRule (casefold p.part) = none := by
  rw [auditPath_eq_nil, ← map_treePathParts hne, CleanParts, List.head?_map, ← List.map_dropLast,
    List.getLast?_map, List.forall_mem_map]
  simp only [Option.mem_map, forall_exists_index, and_imp, forall_apply_eq_imp_iff₂]

lemma GitDatabase.Publishable.noGap {db : GitDatabase} (h : db.Publishable) : db.NoGap := by
  have hclean : ∀ path (hpath : db.CommitPath path), _ := fun path hpath =>
    (auditPath_pathText hpath.choose_spec.2.ne_nil).mp (h path hpath)
  exact {
    root := fun path hpath hroot p hp _ => (hclean path hpath).1 hroot p hp
    directory := fun path hpath p hp _ => (hclean path hpath).2.1 p hp
    last := fun path hpath p hp _ => (hclean path hpath).2.2 p hp }

variable [ContentRules]

/-- A scan of the database without a finding covers the history but for the gap. -/
theorem publishable_iff_noGap {db : GitDatabase} {descriptions : List ObjectDescription}
    {process : CatFile} {scans : List ObjectScan} (hreported : db.Reported descriptions process)
    (h : scanObjects process descriptions = .ok scans) (hnone : addObjectFindings scans = []) :
    db.Publishable ↔ db.NoGap := by
  refine ⟨GitDatabase.Publishable.noGap, ?_⟩
  rintro hgap path hpath
  obtain ⟨treeId, hroot, hlists⟩ := id hpath
  -- no entry of the path has been reported
  have hasked : ∀ entry ∈ path,
      (entry.isDirectory = true → casefold entry.name ∉ SENSITIVE_DIRECTORY_NAMES) ∧
        (¬ HidesParts entry.name → CleanParts (namePieces entry.name)) := by
    intro entry hentry
    obtain ⟨_, entries, htree, hmem⟩ := hlists.mem entry hentry
    have hhits := (entries_of_no_findings hreported h hnone htree).1 entry hmem
    rw [GitTreeEntry.hits, List.map_eq_nil_iff, Option.toList_eq_nil_iff] at hhits
    exact sensitiveTreeEntryRule_eq_none hhits
  refine (auditPath_pathText hlists.ne_nil).mpr ⟨fun hslash p hp => ?_, fun p hp => ?_,
    fun p hp => ?_⟩
  · by_cases hdirectory : p.IsDirectory ∧ path.head? = some p.entry
    · -- a directory of the root's tree
      obtain ⟨⟨hmode, hname⟩, hhead⟩ := hdirectory
      obtain ⟨entries, htree, hmem⟩ := hlists.head_mem
      rw [(List.head_eq_iff_head?_eq_some hlists.ne_nil).mpr hhead] at hmem
      obtain ⟨hhits, htemp⟩ := (entries_of_no_findings hreported h hnone htree).2 hroot _ hmem
      rw [← hname]
      rintro (hreserved | hreserved)
      · rw [GitTreeEntry.isTempTree, decide_eq_false_iff_not] at htemp
        exact htemp ⟨hmode, hreserved⟩
      · rw [GitTreeEntry.rootHits, sensitiveRootTreeEntryRule, if_pos ⟨hmode, hreserved⟩] at hhits
        cases hhits
    · exact hgap.root path hpath hslash p hp hdirectory
  · by_cases hp' : p.Asked
    · obtain ⟨hentry, -, hinner⟩ := mem_treePathParts ((List.dropLast_sublist _).subset hp)
      rw [PathPart.Asked] at hp'
      split_ifs at hp' with hlast
      · rw [← hp'.2]
        exact (hasked _ hentry).1 hp'.1
      · exact ((hasked _ hentry).2 hp').1 _ (hinner (Bool.not_eq_true _ ▸ hlast))
    · exact hgap.directory path hpath p hp hp'
  · by_cases hhides : HidesParts p.entry.name
    · exact hgap.last path hpath p hp hhides
    · obtain ⟨hentry, hlast, -⟩ := mem_treePathParts (List.mem_of_mem_getLast? hp)
      exact ((hasked _ hentry).2 hhides).2 _ (hlast (isLast_of_getLast? hp))

end Paths

end EdaGym
