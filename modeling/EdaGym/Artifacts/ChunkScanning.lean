import EdaGym.Artifacts.Quota

/-!
# Scanning a content in chunks

A scanner sees each chunk behind the last bytes of what came before it. What it has matched in the
end are the rules that match one of these windows, which need not be the rules that match the
content: the edge of a window makes a word boundary and hides what lies before it.
-/

namespace EdaGym

/-- What a scanner has in view at each of the chunks that follow some bytes. -/
def windows (before : Bytes) : List Bytes → List Bytes
  | [] => []
  | chunk :: chunks =>
    if chunk = [] then windows before chunks
    else (before.drop (before.length - SCAN_OVERLAP) ++ chunk) :: windows (before ++ chunk) chunks

/-- The ids of the rules that match one of several strings. -/
def MatchedIn (rules : List ContentRule) (datas : List Bytes) (ruleId : String) : Prop :=
  ∃ rule ∈ rules, rule.ruleId = ruleId ∧ ∃ data ∈ datas, rule.matches' data = true

lemma matchedIn_cons {rules : List ContentRule} {data : Bytes} {datas : List Bytes}
    {ruleId : String} : MatchedIn rules (data :: datas) ruleId ↔
      MatchedIn rules [data] ruleId ∨ MatchedIn rules datas ruleId := by
  simp only [MatchedIn, List.exists_mem_cons_iff, List.not_mem_nil, false_and, exists_false,
    or_false, and_or_left, exists_or]

namespace ContentRuleScanner

/-- `update` on each of the chunks in order. -/
def updates (scanner : ContentRuleScanner) (chunks : List Bytes) : ContentRuleScanner :=
  chunks.foldl update scanner

variable {scanner : ContentRuleScanner} {chunk : Bytes} {chunks : List Bytes} {ruleId : String}

@[simp] lemma update_nil : scanner.update [] = scanner := if_pos rfl

@[simp] lemma rules_update : (scanner.update chunk).rules = scanner.rules := by
  rw [update]
  split <;> rfl

lemma mem_matched_update (h : chunk ≠ []) : ruleId ∈ (scanner.update chunk).matched ↔
    ruleId ∈ scanner.matched ∨ MatchedIn scanner.rules [scanner.tail ++ chunk] ruleId := by
  simp only [update, if_neg h, List.mem_append, List.mem_map, List.mem_filter, decide_eq_true_eq,
    MatchedIn, List.mem_singleton, exists_eq_left]
  constructor
  · rintro (hmem | ⟨rule, ⟨hrule, -, hmatches⟩, hid⟩)
    · exact Or.inl hmem
    · exact Or.inr ⟨rule, hrule, hid, hmatches⟩
  · rintro (hmem | ⟨rule, hrule, rfl, hmatches⟩)
    · exact Or.inl hmem
    · by_cases hmem : rule.ruleId ∈ scanner.matched
      · exact Or.inl hmem
      · exact Or.inr ⟨rule, ⟨hrule, hmem, hmatches⟩, rfl⟩

/-- The tail is the end of what was read. -/
def Read (scanner : ContentRuleScanner) (before : Bytes) : Prop :=
  scanner.tail = before.drop (before.length - SCAN_OVERLAP)

lemma Read.update {before : Bytes} (h : scanner.Read before) (chunk : Bytes) :
    (scanner.update chunk).Read (before ++ chunk) := by
  by_cases hempty : chunk = []
  · subst hempty
    rwa [update_nil, List.append_nil]
  · have htail : scanner.tail ++ chunk =
        (before ++ chunk).drop (before.length - SCAN_OVERLAP) := by
      rw [h, List.drop_append_of_le_length (Nat.sub_le _ _)]
    simp only [Read, ContentRuleScanner.update, if_neg hempty, htail, List.drop_drop,
      List.length_drop, List.length_append]
    generalize SCAN_OVERLAP = overlap
    congr 1
    omega

/-- What is matched after more chunks: what was matched, and what matches a window of theirs. -/
lemma mem_matched_updates {before : Bytes} (h : scanner.Read before) :
    ruleId ∈ (scanner.updates chunks).matched ↔
      ruleId ∈ scanner.matched ∨ MatchedIn scanner.rules (windows before chunks) ruleId := by
  induction chunks generalizing scanner before with
  | nil => simp [updates, windows, MatchedIn]
  | cons chunk chunks ih =>
    have hrest := ih (h.update chunk)
    show ruleId ∈ ((scanner.update chunk).updates chunks).matched ↔ _
    by_cases hempty : chunk = []
    · subst hempty
      rw [windows, if_pos rfl]
      simpa only [update_nil, List.append_nil] using hrest
    · rw [hrest, mem_matched_update hempty, rules_update, windows, if_neg hempty, or_assoc, h]
      exact or_congr_right matchedIn_cons.symm

lemma mem_matched_start {rules : List ContentRule} :
    ruleId ∈ (updates { rules } chunks).matched ↔
      MatchedIn rules (windows [] chunks) ruleId := by
  have hstart : Read { rules } [] := by rw [Read, List.drop_nil]
  simpa using mem_matched_updates hstart

lemma found_iff : scanner.found = true ↔ ∃ ruleId, ruleId ∈ scanner.matched := by
  rw [found, decide_eq_true_eq, List.ne_nil_iff_exists_cons]
  constructor
  · rintro ⟨ruleId, rest, h⟩
    exact ⟨ruleId, h ▸ List.mem_cons_self⟩
  · rintro ⟨ruleId, h⟩
    exact List.ne_nil_iff_exists_cons.mp (List.ne_nil_of_mem h)

/-- A match is not forgotten. -/
lemma found_updates (chunks : List Bytes) (h : scanner.found = true) :
    (scanner.updates chunks).found = true := by
  induction chunks generalizing scanner with
  | nil => exact h
  | cons chunk chunks ih =>
    refine ih ?_
    by_cases hempty : chunk = []
    · rwa [hempty, update_nil]
    · obtain ⟨ruleId, hmem⟩ := found_iff.mp h
      exact found_iff.mpr ⟨ruleId, (mem_matched_update hempty).mpr (Or.inl hmem)⟩

end ContentRuleScanner

namespace ContentAddressedStore

/-- Chunks pass when no credential rule is matched by the end, nor a restricted one that matters. -/
lemma scanChunks_eq_ok {allowed : Bool} {scanners : Scanners} {chunks : List Bytes}
    (hcredential : ¬ scanners.credential.found = true)
    (hrestricted : ¬ (scanners.restricted.found = true ∧ allowed = false)) :
    (∃ last, scanChunks allowed scanners chunks = .ok last) ↔
      ¬ (scanners.credential.updates chunks).found = true ∧
        ¬ ((scanners.restricted.updates chunks).found = true ∧ allowed = false) := by
  induction chunks generalizing scanners with
  | nil => exact iff_of_true ⟨scanners, rfl⟩ ⟨hcredential, hrestricted⟩
  | cons chunk chunks ih =>
    have hstep : ∀ next, scanDisclosureChunk scanners allowed chunk = .ok next ↔
        ¬ (scanners.credential.update chunk).found = true ∧
          ¬ ((scanners.restricted.update chunk).found = true ∧ allowed = false) ∧
          ⟨scanners.credential.update chunk, scanners.restricted.update chunk⟩ = next := by
      intro next
      simp only [scanDisclosureChunk, bind_eq_ok, raiseIf_eq_ok, exists_const, pure_eq_ok]
    constructor
    · rintro ⟨last, hlast⟩
      obtain ⟨next, hnext, hrest⟩ := foldSteps_cons_eq_ok.mp hlast
      obtain ⟨hcredential', hrestricted', rfl⟩ := (hstep next).mp hnext
      exact (ih hcredential' hrestricted').mp ⟨last, hrest⟩
    · rintro ⟨hcredential', hrestricted'⟩
      have hcredential₁ : ¬ (scanners.credential.update chunk).found = true := fun h =>
        hcredential' (ContentRuleScanner.found_updates chunks h)
      have hrestricted₁ : ¬ ((scanners.restricted.update chunk).found = true ∧ allowed = false) :=
        fun h => hrestricted' ⟨ContentRuleScanner.found_updates chunks h.1, h.2⟩
      have hnext := (hstep _).mpr ⟨hcredential₁, hrestricted₁, rfl⟩
      obtain ⟨last, hlast⟩ := (@ih ⟨_, _⟩ hcredential₁ hrestricted₁).mpr
        ⟨hcredential', hrestricted'⟩
      exact ⟨last, foldSteps_cons_eq_ok.mpr ⟨_, hnext, hlast⟩⟩

variable [ContentRules]

lemma scanChunks_start {allowed : Bool} {chunks : List Bytes} :
    (∃ last, scanChunks allowed startScanners chunks = .ok last) ↔
      (∀ ruleId, ¬ MatchedIn contentRules (windows [] chunks) ruleId) ∧
        (allowed = false → ∀ ruleId,
          ¬ MatchedIn restrictedContentRules (windows [] chunks) ruleId) := by
  rw [scanChunks_eq_ok (by simp [startScanners, ContentRuleScanner.found])
    (by simp [startScanners, ContentRuleScanner.found])]
  simp only [ContentRuleScanner.found_iff, startScanners, ContentRuleScanner.mem_matched_start,
    not_exists, not_and']

end ContentAddressedStore

end EdaGym
