import EdaGym.Lib.Lines
import Mathlib.Data.String.Basic
import Mathlib.Tactic.Lemma

/-!
# Sensitive paths

Which repository paths, and which names in a Git tree, must not be published. What the interpreter
knows of bytes and letters is left to an instance of `PathText`.
-/

namespace EdaGym

/-- A text as its code points; an undecodable byte is one of them. -/
abbrev Text := List Nat

def text (s : String) : Text := s.toList.map Char.toNat

def SLASH : UInt8 := 47

/-- `os.fsdecode`, `str.casefold` and `bytes.decode("utf-8")`. -/
class PathText where
  fsdecode : Bytes → Text
  casefold : Text → Text
  utf8Decode : Bytes → Option Text
  /-- A slash is one byte and one character in every encoding of the file system. -/
  fsdecode_slash : ∀ head tail,
    fsdecode (head ++ SLASH :: tail) = fsdecode head ++ 47 :: fsdecode tail
  /-- A slash has no case. -/
  casefold_slash : casefold [47] = [47] ∧ casefold [47, 47] = [47, 47]

export PathText (fsdecode casefold utf8Decode fsdecode_slash casefold_slash)

/-! ### Pure paths -/

/-- `path.replace("\\", "/")`. -/
def forwardSlashes (path : Text) : Text := path.map fun c => if c = 92 then 47 else c

/-- The root of a path: one slash, or exactly two. -/
def pathRoot (path : Text) : List Text :=
  if path.take 2 = [47, 47] ∧ path.take 3 ≠ [47, 47, 47] then [[47, 47]]
  else if path.head? = some 47 then [[47]]
  else []

/-- The parts of a path behind its root. -/
def pathPieces (path : Text) : List Text :=
  (path.splitOn 47).filter fun part => part ≠ [] ∧ part ≠ [46]

/-- `PurePosixPath(path).parts`. -/
def purePathParts (path : Text) : List Text := pathRoot path ++ pathPieces path

/-! ### The rules -/

def EXACT_SENSITIVE_NAMES : List Text :=
  [text ".gitleaksignore", text ".netrc", text ".npmrc", text ".pypirc", text "auth.json",
    text "credentials", text "credentials.json", text "id_dsa", text "id_ecdsa", text "id_ed25519",
    text "id_rsa", text "license.dat", text "license.lic", text "service-account.json"]

def SENSITIVE_SUFFIXES : List Text :=
  [text ".jks", text ".key", text ".kdbx", text ".p12", text ".pem", text ".pfx"]

def SENSITIVE_DIRECTORY_NAMES : List Text :=
  [text ".aws", text ".claude", text ".codex", text ".ssh", text "credentials", text "secrets"]

def PRIVATE_RUNTIME_ROOTS : List Text :=
  [text ".benchmarks", text ".edagym", text ".edagym-state", text ".xil", text "artifacts",
    text "runs", text "task_families", text "workspaces"]

/-- What `sensitive_path_rule` says of a case-folded basename. -/
def basenameRule (basename : Text) : Option String :=
  if basename = text ".env" ∨ (text ".env.").isPrefixOf basename then some "environment-file"
  else if basename ∈ EXACT_SENSITIVE_NAMES then some "credential-filename"
  else if SENSITIVE_SUFFIXES.any (·.isSuffixOf basename) then some "credential-file-extension"
  else none

variable [PathText]

def sensitivePathRule (path : Text) : Option String :=
  match (purePathParts (forwardSlashes path)).map casefold with
  | [] => none
  | root :: rest =>
    if root ∈ PRIVATE_RUNTIME_ROOTS then some "runtime-state-directory"
    else if ((root :: rest).dropLast).any (· ∈ SENSITIVE_DIRECTORY_NAMES) then
      some "sensitive-directory"
    else basenameRule ((root :: rest).getLast (List.cons_ne_nil _ _))

def sensitiveTreeEntryRule (name : Text) (isDirectory : Bool) : Option String :=
  if isDirectory ∧ casefold name ∈ SENSITIVE_DIRECTORY_NAMES then some "sensitive-directory"
  else if sensitivePathRule name = some "runtime-state-directory" then none
  else sensitivePathRule name

def sensitiveRootTreeEntryRule (name : Text) (isDirectory : Bool) : Option String :=
  if isDirectory ∧ casefold name ∈ PRIVATE_RUNTIME_ROOTS then some "runtime-state-directory"
  else none

/-- The rules by which `_audit_path` reports a path. -/
def auditPath (path : Text) : List String :=
  (if (purePathParts (forwardSlashes path)).head?.map casefold = some (text "temp") then
    ["tracked-temp-path"] else []) ++ (sensitivePathRule path).toList

/-! ### Parts of joined names -/

/-- The parts that a name gives a path. -/
def namePieces (name : Text) : List Text := pathPieces (forwardSlashes name)

/-- The path of these names. -/
def joinNames (names : List Text) : Text := [47].intercalate names

section

omit [PathText]

lemma pathPieces_append (path path' : Text) :
    pathPieces (path ++ 47 :: path') = pathPieces path ++ pathPieces path' := by
  rw [pathPieces, List.splitOn,
    List.splitOnP_append_cons (p := fun c => c == 47) path path' (by simp), List.filter_append]
  rfl

/-- Joining names joins their parts. -/
theorem pathPieces_joinNames (names : List Text) :
    pathPieces (forwardSlashes (joinNames names)) = names.flatMap namePieces := by
  induction names with
  | nil => rfl
  | cons name names ih =>
    cases names with
    | nil => rw [joinNames, List.intercalate_singleton, List.flatMap_singleton, namePieces]
    | cons name' names =>
      rw [List.flatMap_cons, ← ih, joinNames, List.intercalate_cons_cons, List.append_assoc,
        forwardSlashes, List.map_append, List.singleton_append, List.map_cons, if_neg (by decide)]
      exact pathPieces_append _ _

/-- The root of a path, if it has one, is made of slashes. -/
lemma pathRoot_cases (path : Text) :
    pathRoot path = [] ∨ ∃ root : Text, root ∈ [[47], [47, 47]] ∧ pathRoot path = [root] := by
  rw [pathRoot]
  split_ifs
  · exact Or.inr ⟨[47, 47], by simp, rfl⟩
  · exact Or.inr ⟨[47], by simp, rfl⟩
  · exact Or.inl rfl

end

/-! ### What is asked of the parts -/

/-- The parts before the last are no sensitive directories, and the last is no sensitive name. -/
def CleanParts (parts : List Text) : Prop :=
  (∀ part ∈ parts.dropLast, casefold part ∉ SENSITIVE_DIRECTORY_NAMES) ∧
    ∀ part ∈ parts.getLast?, basenameRule (casefold part) = none

lemma sensitivePathRule_eq_none {path : Text} :
    sensitivePathRule path = none ↔
      (∀ part ∈ (purePathParts (forwardSlashes path)).head?,
        casefold part ∉ PRIVATE_RUNTIME_ROOTS) ∧
      CleanParts (purePathParts (forwardSlashes path)) := by
  rw [sensitivePathRule, CleanParts]
  cases purePathParts (forwardSlashes path) with
  | nil => simp
  | cons root rest =>
    have hdirectories : ((casefold root :: rest.map casefold).dropLast).any
          (· ∈ SENSITIVE_DIRECTORY_NAMES) = true ↔
        ∃ part ∈ (root :: rest).dropLast, casefold part ∈ SENSITIVE_DIRECTORY_NAMES := by
      rw [← List.map_cons, ← List.map_dropLast, List.any_map, List.any_eq_true]
      simp
    have hlast : (casefold root :: rest.map casefold).getLast (List.cons_ne_nil _ _) =
        casefold ((root :: rest).getLast (List.cons_ne_nil _ _)) := by
      rw [← List.getLast_map (f := casefold) (by simp)]
      rfl
    simp only [List.map_cons, List.head?_cons, Option.mem_some_iff, forall_eq',
      List.getLast?_eq_some_getLast (List.cons_ne_nil root rest), hlast]
    by_cases hroot : casefold root ∈ PRIVATE_RUNTIME_ROOTS
    · simp [hroot]
    · rw [if_neg hroot]
      by_cases hany : ((casefold root :: rest.map casefold).dropLast).any
        (· ∈ SENSITIVE_DIRECTORY_NAMES) = true
      · rw [if_pos hany]
        obtain ⟨part, hpart, hsensitive⟩ := hdirectories.mp hany
        exact iff_of_false (by simp) fun h => h.2.1 part hpart hsensitive
      · rw [if_neg hany]
        have hnone : ∀ part ∈ (root :: rest).dropLast,
            casefold part ∉ SENSITIVE_DIRECTORY_NAMES := by
          intro part hpart hsensitive
          exact hany (hdirectories.mpr ⟨part, hpart, hsensitive⟩)
        exact ⟨fun hrule => ⟨hroot, hnone, hrule⟩, fun hrule => hrule.2.2⟩

/-- A name that only the root of a repository must not hold. -/
def ReservedRoot (name : Text) : Prop :=
  casefold name = text "temp" ∨ casefold name ∈ PRIVATE_RUNTIME_ROOTS

instance (name : Text) : Decidable (ReservedRoot name) := inferInstanceAs (Decidable (_ ∨ _))

/-- A root is no name that a rule knows. -/
lemma slashes_harmless {root : Text} (h : root ∈ [[47], [47, 47]]) :
    ¬ ReservedRoot root ∧ casefold root ∉ SENSITIVE_DIRECTORY_NAMES ∧
      basenameRule (casefold root) = none := by
  have hcase : casefold root = root := by
    rcases List.mem_pair.mp h with rfl | rfl
    · exact casefold_slash.1
    · exact casefold_slash.2
  rw [ReservedRoot, hcase]
  clear hcase
  revert root
  decide

lemma cleanParts_cons {part : Text} {parts : List Text}
    (hdirectory : casefold part ∉ SENSITIVE_DIRECTORY_NAMES)
    (hlast : basenameRule (casefold part) = none) :
    CleanParts (part :: parts) ↔ CleanParts parts := by
  cases parts with
  | nil => simp [CleanParts, hlast]
  | cons next rest => simp [CleanParts, hdirectory]

/-- A path is reported for its first part, for a directory on it or for its last part. -/
theorem auditPath_eq_nil {path : Text} :
    auditPath path = [] ↔
      (pathRoot (forwardSlashes path) = [] → ∀ part ∈ (namePieces path).head?,
        ¬ ReservedRoot part) ∧ CleanParts (namePieces path) := by
  have hparts : auditPath path = [] ↔
      (∀ part ∈ (purePathParts (forwardSlashes path)).head?, ¬ ReservedRoot part) ∧
        CleanParts (purePathParts (forwardSlashes path)) := by
    rw [auditPath, List.append_eq_nil_iff, Option.toList_eq_nil_iff, sensitivePathRule_eq_none,
      ← and_assoc]
    apply and_congr_left'
    cases (purePathParts (forwardSlashes path)).head? with
    | none => simp
    | some root => simp [ReservedRoot]
  rw [hparts, purePathParts, namePieces]
  rcases pathRoot_cases (forwardSlashes path) with hroot | ⟨root, hslashes, hroot⟩
  · simp [hroot]
  · obtain ⟨hreserved, hdirectory, hlast⟩ := slashes_harmless hslashes
    rw [hroot, List.singleton_append, cleanParts_cons hdirectory hlast]
    simp [hreserved]

/-! ### What the entries of a path say of it -/

/-- A name whose first part is a private runtime root: the rule of an entry asks nothing else. -/
def HidesParts (name : Text) : Prop := sensitivePathRule name = some "runtime-state-directory"

instance (name : Text) : Decidable (HidesParts name) := inferInstanceAs (Decidable (_ = _))

/-- What `_TreeParser` has asked of an entry that it does not report. -/
lemma sensitiveTreeEntryRule_eq_none {name : Text} {isDirectory : Bool}
    (h : sensitiveTreeEntryRule name isDirectory = none) :
    (isDirectory = true → casefold name ∉ SENSITIVE_DIRECTORY_NAMES) ∧
      (¬ HidesParts name → CleanParts (namePieces name)) := by
  rw [sensitiveTreeEntryRule] at h
  split_ifs at h with hdirectory hhides
  · exact ⟨fun hd hmem => hdirectory ⟨hd, hmem⟩, fun hnot => absurd hhides hnot⟩
  · refine ⟨fun hd hmem => hdirectory ⟨hd, hmem⟩, fun _ => ?_⟩
    obtain ⟨-, hparents, hlast⟩ := sensitivePathRule_eq_none.mp h
    rw [purePathParts] at hparents hlast
    refine ⟨fun part hpart => hparents part ?_, fun part hpart => hlast part ?_⟩
    · have hne : namePieces name ≠ [] := by
        intro hnil
        rw [hnil] at hpart
        cases hpart
      rw [← namePieces, List.dropLast_append_of_ne_nil hne]
      exact List.mem_append_right _ hpart
    · rw [← namePieces, List.getLast?_append, Option.mem_def.mp hpart]
      rfl

end EdaGym
