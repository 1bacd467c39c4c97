import EdaGym.Lib.ChunkedRecords
import EdaGym.Lib.Raise
import EdaGym.Policy.PathRules

/-!
# The tree parser

A tree object holds its entries one after the other: a mode, a space, a name, a zero byte and an
object id of the hash's width. The parser reads them from chunks and keeps what the path rules say
of them.
-/

namespace EdaGym

/-! ### Entries -/

/-- `data.partition(b)`, when the byte is there. -/
def partitionAt (b : UInt8) : Bytes → Option (Bytes × Bytes)
  | [] => none
  | c :: rest =>
    if c = b then some ([], rest)
    else (partitionAt b rest).map fun found => (c :: found.1, found.2)

lemma partitionAt_eq_some {b : UInt8} {data before after : Bytes} :
    partitionAt b data = some (before, after) ↔ b ∉ before ∧ data = before ++ b :: after := by
  induction data generalizing before with
  | nil => simp [partitionAt]
  | cons c rest ih =>
    rw [partitionAt]
    by_cases hc : c = b
    · subst hc
      rw [if_pos rfl, Option.some.injEq, Prod.mk.injEq]
      cases before with
      | nil => simp
      | cons d before => simp +contextual [eq_comm]
    · rw [if_neg hc, Option.map_eq_some_iff]
      cases before with
      | nil => simp [hc]
      | cons d before =>
        simp only [Prod.mk.injEq, List.cons.injEq, Prod.exists, List.mem_cons, not_or,
          List.cons_append]
        constructor
        · rintro ⟨before', after', h, ⟨rfl, rfl⟩, rfl⟩
          obtain ⟨hnot, hrest⟩ := ih.mp h
          exact ⟨⟨Ne.symm hc, hnot⟩, rfl, hrest⟩
        · rintro ⟨⟨-, hnot⟩, rfl, hrest⟩
          exact ⟨before, after, ih.mpr ⟨hnot, hrest⟩, ⟨rfl, rfl⟩, rfl⟩

/-- The bytes of an ASCII text. -/
def ascii (s : String) : Bytes := s.toList.map fun c => UInt8.ofNat c.toNat

structure GitTreeEntry where
  mode : Bytes
  rawName : Bytes
  objectId : Bytes

namespace GitTreeEntry

/-- An entry that a tree object can hold. -/
structure Complete (hashWidth : Nat) (entry : GitTreeEntry) : Prop where
  no_space : (32 : UInt8) ∉ entry.mode
  no_nul : (0 : UInt8) ∉ entry.rawName
  length_objectId : entry.objectId.length = hashWidth

/-- The bytes of an entry in a tree object. -/
def bytes (entry : GitTreeEntry) : Bytes :=
  entry.mode ++ 32 :: (entry.rawName ++ 0 :: entry.objectId)

/-- `is_directory`: the two spellings of a directory's mode. -/
def isDirectory (entry : GitTreeEntry) : Bool :=
  entry.mode = ascii "040000" ∨ entry.mode = ascii "40000"

end GitTreeEntry

/-- What `feed` takes off its buffer in one turn of the loop. -/
def nextEntry (hashWidth : Nat) (buffer : Bytes) : Option (GitTreeEntry × Bytes) :=
  match partitionAt 32 buffer with
  | none => none
  | some (mode, named) =>
    match partitionAt 0 named with
    | none => none
    | some (rawName, rest) =>
      if rest.length < hashWidth then none
      else some (⟨mode, rawName, rest.take hashWidth⟩, rest.drop hashWidth)

lemma nextEntry_eq_some {hashWidth : Nat} {buffer rest : Bytes} {entry : GitTreeEntry} :
    nextEntry hashWidth buffer = some (entry, rest) ↔
      entry.Complete hashWidth ∧ buffer = entry.bytes ++ rest := by
  constructor
  · intro h
    rw [nextEntry] at h
    split at h
    · cases h
    · rename_i mode named hmode
      split at h
      · cases h
      · rename_i rawName tail hname
        split_ifs at h with hlength
        obtain ⟨hspace, hbuffer⟩ := partitionAt_eq_some.mp hmode
        obtain ⟨hnul, hnamed⟩ := partitionAt_eq_some.mp hname
        injection h with hpair
        injection hpair with hentry hrest
        subst hentry hrest
        refine ⟨⟨hspace, hnul, ?_⟩, ?_⟩
        · exact List.length_take_of_le (not_lt.mp hlength)
        · rw [GitTreeEntry.bytes, hbuffer, hnamed]
          simp
  · rintro ⟨⟨hspace, hnul, hid⟩, hbuffer⟩
    have hmode : partitionAt 32 buffer =
        some (entry.mode, entry.rawName ++ 0 :: (entry.objectId ++ rest)) :=
      partitionAt_eq_some.mpr ⟨hspace, by rw [hbuffer, GitTreeEntry.bytes]; simp⟩
    have hname : partitionAt 0 (entry.rawName ++ 0 :: (entry.objectId ++ rest)) =
        some (entry.rawName, entry.objectId ++ rest) := partitionAt_eq_some.mpr ⟨hnul, rfl⟩
    have hlength : ¬ (entry.objectId ++ rest).length < hashWidth := by
      rw [List.length_append, hid]
      omega
    simp only [nextEntry, hmode, hname, if_neg hlength]
    rw [← hid, List.take_left, List.drop_left]

/-- Tree objects of a hash width. -/
def treeFormat (hashWidth : Nat) : RecordFormat UInt8 GitTreeEntry where
  encode := GitTreeEntry.bytes
  next := nextEntry hashWidth
  Valid := GitTreeEntry.Complete hashWidth
  next_eq_some := nextEntry_eq_some
  encode_ne_nil entry := by simp [GitTreeEntry.bytes]

/-! ### The parser -/

/-- What stops an audit step: a failed git command, an answer out of its form, a file error or an
indexed file that is not there. -/
inductive PolicyFailure where
  | gitFailure
  | objectProtocolFailure
  | osError
  | lookupError
deriving DecidableEq

structure TreeHit where
  ruleId : String
  name : Text

/-- What the parser keeps of the entries it has seen. -/
structure TreeHits where
  hits : List TreeHit := []
  rootHits : List TreeHit := []
  hasTempTree : Bool := false

variable [PathText]

namespace GitTreeEntry

def name (entry : GitTreeEntry) : Text := fsdecode entry.rawName

def hits (entry : GitTreeEntry) : List TreeHit :=
  (sensitiveTreeEntryRule entry.name entry.isDirectory).toList.map fun ruleId =>
    ⟨ruleId, entry.name⟩

def rootHits (entry : GitTreeEntry) : List TreeHit :=
  (sensitiveRootTreeEntryRule entry.name entry.isDirectory).toList.map fun ruleId =>
    ⟨ruleId, entry.name⟩

def isTempTree (entry : GitTreeEntry) : Bool :=
  entry.isDirectory ∧ casefold entry.name = text "temp"

end GitTreeEntry

/-- One turn of the loop of `feed`. -/
def TreeHits.see (seen : TreeHits) (entry : GitTreeEntry) : TreeHits where
  hits := seen.hits ++ entry.hits
  rootHits := seen.rootHits ++ entry.rootHits
  hasTempTree := seen.hasTempTree || entry.isTempTree

/-- A parser is what it has seen and its buffer. -/
abbrev TreeParser := TreeHits × Bytes

namespace TreeParser

def new : TreeParser := ({}, [])

def feed (hashWidth : Nat) (parser : TreeParser) (chunk : Bytes) : TreeParser :=
  (treeFormat hashWidth).feed TreeHits.see parser chunk

def finish (parser : TreeParser) : Except PolicyFailure TreeHits :=
  if parser.2 ≠ [] then .error .objectProtocolFailure else .ok parser.1

end TreeParser

/-- The parser of a tree object that comes in these chunks. -/
def parseTree (hashWidth : Nat) (chunks : List Bytes) : Except PolicyFailure TreeHits :=
  (chunks.foldl (TreeParser.feed hashWidth) TreeParser.new).finish

/-- What the parser keeps of these entries. -/
def treeHits (entries : List GitTreeEntry) : TreeHits where
  hits := entries.flatMap GitTreeEntry.hits
  rootHits := entries.flatMap GitTreeEntry.rootHits
  hasTempTree := entries.any GitTreeEntry.isTempTree

lemma foldl_see (entries : List GitTreeEntry) (seen : TreeHits) :
    entries.foldl TreeHits.see seen =
      { hits := seen.hits ++ (treeHits entries).hits
        rootHits := seen.rootHits ++ (treeHits entries).rootHits
        hasTempTree := seen.hasTempTree || (treeHits entries).hasTempTree } := by
  induction entries generalizing seen with
  | nil => simp [treeHits]
  | cons entry entries ih => simp [ih, treeHits, TreeHits.see, Bool.or_assoc]

/-- The entries of a tree object, in its bytes. -/
def TreeHolds (hashWidth : Nat) (content : Bytes) (entries : List GitTreeEntry) : Prop :=
  (∀ entry ∈ entries, entry.Complete hashWidth) ∧
    content = entries.flatMap GitTreeEntry.bytes

/-- However a tree object is cut into chunks, the parser sees its entries, and it rejects what is
not a sequence of complete entries. -/
theorem parseTree_eq_ok {hashWidth : Nat} {chunks : List Bytes} {seen : TreeHits} :
    parseTree hashWidth chunks = .ok seen ↔
      ∃ entries, TreeHolds hashWidth chunks.flatten entries ∧ seen = treeHits entries := by
  have hfinish : parseTree hashWidth chunks = .ok seen ↔
      chunks.foldl (TreeParser.feed hashWidth) TreeParser.new = (seen, []) := by
    rw [parseTree, TreeParser.finish]
    generalize chunks.foldl (TreeParser.feed hashWidth) TreeParser.new = parser
    obtain ⟨seen', buffer⟩ := parser
    by_cases hbuffer : buffer = []
    · simp [hbuffer]
    · simp [hbuffer]
  have hread := (treeFormat hashWidth).feed_chunks_iff TreeHits.see {} seen chunks
  rw [hfinish]
  refine Iff.trans hread ?_
  simp only [foldl_see, List.nil_append, Bool.false_or]
  constructor
  · rintro ⟨entries, hvalid, hstream, rfl⟩
    exact ⟨entries, ⟨hvalid, hstream⟩, rfl⟩
  · rintro ⟨entries, ⟨hvalid, hstream⟩, rfl⟩
    exact ⟨entries, hvalid, hstream, rfl⟩

end EdaGym
