import EdaGym.Specs.Common

/-!
# The artifact policy of an environment

Which disclosures each artifact class may be kept under, for how long, encrypted or not, and how
many bytes the store may hold.
-/

namespace EdaGym

inductive EncryptionPolicy
  | none
  | managed (providerId : Identifier) (policyDigest : Digest)
deriving DecidableEq, Repr

/-- What an artifact is disclosed as. -/
structure ArtifactDisclosure where
  sensitivity : Sensitivity
  visibility : Visibility
  redistribution : Redistribution
  not_secret : sensitivity ≠ .secret := by
    first | exact Sensitivity.internal_ne_secret | exact Sensitivity.confidential_ne_secret | decide
  public_policy : visibility = .pub → sensitivity = .pub ∧ redistribution = .allowed := by
    first
    | exact Visibility.participant_private _ _
    | exact Visibility.verifier_private _ _
    | exact Visibility.author_private _ _
    | decide
deriving DecidableEq

def ArtifactDisclosure.validate (sensitivity : Sensitivity) (visibility : Visibility)
    (redistribution : Redistribution) : Except String ArtifactDisclosure :=
  if hsecret : sensitivity = .secret then
    .error "secret data cannot be retained as an artifact"
  else if hpublic : visibility = .pub → sensitivity = .pub ∧ redistribution = .allowed then
    .ok ⟨sensitivity, visibility, redistribution, hsecret, hpublic⟩
  else .error "public artifacts require public, redistributable content"

def PROTECTED_RAW_DISCLOSURE : ArtifactDisclosure where
  sensitivity := .confidential
  visibility := .author
  redistribution := .forbidden

def RAW_EDA_ARTIFACT_CLASSES : List ArtifactClass := [.diagnostic, .evidence]

structure ArtifactRetentionRule where
  artifactClass : ArtifactClass
  retentionSeconds : Nat
  allowedDisclosures : List ArtifactDisclosure
  disclosures_nodup : allowedDisclosures.Nodup := by decide
  disclosures_ne_nil : allowedDisclosures ≠ [] := by decide

structure ArtifactPolicy where
  quotaBytes : Nat
  encryption : EncryptionPolicy := .none
  /-- One rule for each artifact class. -/
  rule : ArtifactClass → ArtifactRetentionRule
  quota_pos : 0 < quotaBytes := by first | exact Nat.zero_lt_one | decide
  rule_class : ∀ artifactClass, (rule artifactClass).artifactClass = artifactClass
  encryption_required : encryption = .none → ∀ artifactClass,
    ∀ disclosure ∈ (rule artifactClass).allowedDisclosures,
      disclosure.sensitivity ≠ .confidential

end EdaGym
