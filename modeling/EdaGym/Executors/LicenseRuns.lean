import EdaGym.Executors.Licenses
import Mathlib.Logic.Relation

/-!
# License providers under threads

Any number of threads call any number of providers, with leases of these providers and of others.
What a call does under a provider's lock is one step; between two steps time passes, and a lease may
be read without a lock. A provider removes from its table what carries the identifier of the lease
that it is given. As long as this does not remove a lease of its own for a lease of another, the
table holds every lease of the provider that is active.
-/

namespace EdaGym

open LicenseCustody

/-! ### Steps -/

structure LicenseWorld where
  now : Datetime
  leases : List LicenseLease
  providers : List LicenseProvider
  /-- Leases that a reader without a lock has found to have expired, and has not marked yet. -/
  expiring : List LeaseRef := []

inductive LicenseAction
  | pass (time : Nat)
  | acquire (provider : Nat) (call : AcquireCall) (answer : AcquireAnswer)
  | renew (provider : Nat) (lease : LeaseRef) (ttlSeconds : Int)
  | release (provider : Nat) (lease : LeaseRef)
  /-- A read without a lock comes to a lease that has expired. -/
  | readExpired (lease : LeaseRef)
  | markExpired (lease : LeaseRef)
  /-- A provider that is not modelled makes a lease, or does anything to one that it has made. -/
  | makeOther (lease : LicenseLease)
  | changeOther (r : LeaseRef) (lease : LicenseLease)

namespace LicenseWorld

variable (isRunId : String → Bool)

/-- What a call at a provider left behind. -/
def put (w : LicenseWorld) (i : Nat) (c : LicenseCustody) : LicenseWorld :=
  { w with leases := c.leases, providers := w.providers.set i c.provider }

def step (w : LicenseWorld) : LicenseAction → Option LicenseWorld
  | .pass time => some { w with now := w.now + time }
  | .acquire i call answer =>
    match w.providers[i]? with
    | none => none
    | some p =>
      let c := (acquire isRunId ⟨w.leases, p⟩ w.now call answer).2
      some { w.put i c with now := w.now + answer.lasted }
  | .renew i r ttlSeconds =>
    match w.providers[i]?, w.leases[r]? with
    | some p, some lease => some (w.put i (renew ⟨w.leases, p⟩ w.now r lease ttlSeconds).2)
    | _, _ => none
  | .release i r =>
    match w.providers[i]?, w.leases[r]? with
    | some p, some lease => some (w.put i (release ⟨w.leases, p⟩ w.now r lease).2)
    | _, _ => none
  | .readExpired r =>
    match w.leases[r]? with
    | some lease =>
      if lease.state w.now = .expired then some { w with expiring := r :: w.expiring } else none
    | none => none
  | .markExpired r =>
    match w.leases[r]? with
    | some lease =>
      if r ∈ w.expiring then
        some { w with leases := w.leases.set r { lease with mark := .expired } }
      else none
    | none => none
  | .makeOther lease => some { w with leases := w.leases ++ [lease] }
  | .changeOther r lease =>
    if ∀ p ∈ w.providers, r ∉ p.issued then some { w with leases := w.leases.set r lease }
    else none

/-- A lease that the provider has not issued is released with it only where no lease of its own
carries the same identifier. -/
def RemovesOwn (w : LicenseWorld) : LicenseAction → Prop
  | .release i r => ∀ p lease, w.providers[i]? = some p → w.leases[r]? = some lease →
      r ∉ p.issued → lease.leaseId ∉ p.active
  | _ => True

def Step (w w' : LicenseWorld) : Prop := ∃ a, w.RemovesOwn a ∧ w.step isRunId a = some w'

/-- Any number of steps, all of which remove only what they are given. -/
def Steps : LicenseWorld → LicenseWorld → Prop := Relation.ReflTransGen (Step isRunId)

/-- The leases of a provider for a feature that are active. -/
def activeLeases (w : LicenseWorld) (p : LicenseProvider) (feature : Identifier) : List LeaseRef :=
  p.issued.filter fun r => hasFeature w.leases feature r && isActive w.leases w.now r

/-- No lease has been made yet. -/
structure Initial (w : LicenseWorld) : Prop where
  leases : w.leases = []
  expiring : w.expiring = []
  providers : ∀ p ∈ w.providers, p.active = .empty ∧ p.issued = []

end LicenseWorld

/-! ### What holds of a provider -/

/-- `leases` has become `leases'`: what `refs` refer to is a later version of the same lease. -/
def LaterLeases (refs : List LeaseRef) (now : Datetime) (leases : List LicenseLease)
    (now' : Datetime) (leases' : List LicenseLease) : Prop :=
  ∀ r ∈ refs, ∀ lease, leases[r]? = some lease →
    ∃ lease', leases'[r]? = some lease' ∧ LaterLease now lease now' lease'

namespace LicenseCustody

structure Invariant (now : Datetime) (c : LicenseCustody) : Prop where
  issued : ∀ r ∈ c.provider.issued, ∃ lease, c.leases[r]? = some lease ∧
    ∃ n token, n ≤ c.provider.counter ∧ lease.leaseId = c.provider.kind.leaseId n token
  nodup : c.provider.issued.Nodup
  leaseId_inj : ∀ r ∈ c.provider.issued, ∀ r' ∈ c.provider.issued, ∀ lease lease',
    c.leases[r]? = some lease → c.leases[r']? = some lease' →
      lease.leaseId = lease'.leaseId → r = r'
  held : ∀ leaseId r, c.provider.active.get? leaseId = some r → r ∈ c.provider.issued ∧
    ∀ lease, c.leases[r]? = some lease → lease.leaseId = leaseId
  kept : ∀ r ∈ c.provider.issued, ∀ lease, c.leases[r]? = some lease → lease.state now = .active →
    c.provider.active.get? lease.leaseId = some r
  within : ∀ feature, (c.provider.issued.filter fun r =>
    hasFeature c.leases feature r && isActive c.leases now r).length ≤
      c.provider.kind.capacity feature

variable {now now' : Datetime} {c c' : LicenseCustody} {leases' : List LicenseLease} {r : LeaseRef}
  {leases : List LicenseLease}

lemma isActive_iff :
    isActive leases now r = true ↔
      ∃ lease, leases[r]? = some lease ∧ lease.state now = .active := by
  simp [isActive, Option.any_eq_true]

variable {feature : Identifier}

lemma hasFeature_iff :
    hasFeature leases feature r = true ↔
      ∃ lease, leases[r]? = some lease ∧ lease.featureClass = feature := by
  simp [hasFeature, Option.any_eq_true]

/-- Time, reads, renewals and releases: the leases grow older, and entries of the table go whose
leases are not active any more. -/
lemma Invariant.later (h : Invariant now c)
    (hlater : LaterLeases c.provider.issued now c.leases now' leases')
    {active : Dict String LeaseRef}
    (hsub : ∀ leaseId r, active.get? leaseId = some r → c.provider.active.get? leaseId = some r)
    (hkept : ∀ r ∈ c.provider.issued, ∀ lease', leases'[r]? = some lease' →
      lease'.state now' = .active → c.provider.active.get? lease'.leaseId = some r →
      active.get? lease'.leaseId = some r) :
    Invariant now' ⟨leases', { c.provider with active }⟩ := by
  have hback : ∀ r ∈ c.provider.issued, ∀ lease', leases'[r]? = some lease' →
      ∃ lease, c.leases[r]? = some lease ∧ LaterLease now lease now' lease' := by
    intro r hr lease' hlease'
    obtain ⟨lease, hlease, -⟩ := h.issued r hr
    obtain ⟨lease'', hlease'', hl⟩ := hlater r hr lease hlease
    rw [hlease', Option.some.injEq] at hlease''
    exact ⟨lease, hlease, hlease'' ▸ hl⟩
  refine ⟨?_, h.nodup, ?_, ?_, ?_, ?_⟩
  · intro r hr
    obtain ⟨lease, hlease, n, token, hn, hid⟩ := h.issued r hr
    obtain ⟨lease', hlease', hl⟩ := hlater r hr lease hlease
    exact ⟨lease', hlease', n, token, hn, hl.leaseId.trans hid⟩
  · intro r hr r' hr' lease₁ lease₂ hlease₁ hlease₂ hid
    obtain ⟨l₁, hl₁, h₁⟩ := hback r hr lease₁ hlease₁
    obtain ⟨l₂, hl₂, h₂⟩ := hback r' hr' lease₂ hlease₂
    exact h.leaseId_inj r hr r' hr' l₁ l₂ hl₁ hl₂ (by rw [← h₁.leaseId, hid, h₂.leaseId])
  · intro leaseId r hget
    obtain ⟨hr, hid⟩ := h.held leaseId r (hsub leaseId r hget)
    refine ⟨hr, fun lease' hlease' => ?_⟩
    obtain ⟨lease, hlease, hl⟩ := hback r hr lease' hlease'
    exact hl.leaseId.trans (hid lease hlease)
  · intro r hr lease' hlease' hactive
    obtain ⟨lease, hlease, hl⟩ := hback r hr lease' hlease'
    refine hkept r hr lease' hlease' hactive ?_
    rw [hl.leaseId]
    exact h.kept r hr lease hlease (hl.active hactive)
  · intro feature
    refine le_trans ?_ (h.within feature)
    rw [← List.countP_eq_length_filter, ← List.countP_eq_length_filter]
    refine List.countP_mono_left fun r hr hcount => ?_
    simp only [Bool.and_eq_true, hasFeature_iff, isActive_iff] at hcount ⊢
    obtain ⟨⟨l₁, hl₁, hfeature⟩, l₂, hl₂, hactive⟩ := hcount
    obtain ⟨lease, hlease, hl⟩ := hback r hr l₁ hl₁
    rw [hl₁, Option.some.injEq] at hl₂
    exact ⟨⟨lease, hlease, hl.featureClass ▸ hfeature⟩, lease, hlease,
      hl.active (hl₂ ▸ hactive)⟩

lemma laterLeases_set {refs : List LeaseRef}
    {lease lease' : LicenseLease} (hlease : leases[r]? = some lease)
    (hl : LaterLease now lease now lease') :
    LaterLeases refs now leases now (leases.set r lease') := by
  intro r' _ l hl'
  by_cases heq : r' = r
  · subst heq
    rw [hlease, Option.some.injEq] at hl'
    subst hl'
    exact ⟨lease', by simp [(List.getElem?_eq_some_iff.mp hlease).1], hl⟩
  · exact ⟨l, by rw [List.getElem?_set_ne (Ne.symm heq), hl'], LaterLease.pass le_rfl⟩

/-! ### Sections under the lock -/

lemma laterLeases_discardInactive (refs : List LeaseRef) :
    LaterLeases refs now c.leases now (c.discardInactive now).leases := by
  intro r _ lease hlease
  refine ⟨_, by rw [discardInactive, List.getElem?_mapIdx, hlease]; rfl, ?_⟩
  dsimp only
  split_ifs
  · exact LaterLease.release
  · exact LaterLease.pass le_rfl

lemma get?_discardInactive {leaseId : String} :
    (c.discardInactive now).provider.active.get? leaseId = some r ↔
      c.provider.active.get? leaseId = some r ∧ isActive c.leases now r = true := by
  have hstale : leaseId ∈ (c.provider.active.entries.filter fun entry =>
      !isActive c.leases now entry.2).map Prod.fst ↔
        ∃ r', c.provider.active.get? leaseId = some r' ∧ isActive c.leases now r' = false := by
    simp only [List.mem_map, List.mem_filter, Dict.mem_entries, Bool.not_eq_true']
    constructor
    · rintro ⟨⟨_, r'⟩, hr', rfl⟩
      exact ⟨r', hr'⟩
    · rintro ⟨r', hr'⟩
      exact ⟨(leaseId, r'), hr', rfl⟩
  rw [discardInactive, Dict.get?_filterKeys]
  simp only [decide_eq_true_eq, hstale, not_exists, not_and, Bool.not_eq_false]
  split_ifs with h
  · exact ⟨fun hr => ⟨hr, h r hr⟩, And.left⟩
  · simp only [false_iff, not_and]
    rintro hr hactive
    refine h fun r' hr' => ?_
    rw [hr, Option.some.injEq] at hr'
    exact hr' ▸ hactive

lemma Invariant.discardInactive (h : Invariant now c) :
    Invariant now (c.discardInactive now) := by
  refine h.later (laterLeases_discardInactive _) (fun leaseId r hr =>
    (get?_discardInactive.mp hr).1) fun r hr lease' hlease' hstate hget => ?_
  refine get?_discardInactive.mpr ⟨hget, ?_⟩
  obtain ⟨lease, hlease, -⟩ := h.issued r hr
  obtain ⟨lease'', hlease'', hl⟩ := laterLeases_discardInactive c.provider.issued r hr lease hlease
  rw [hlease', Option.some.injEq] at hlease''
  exact isActive_iff.mpr ⟨lease, hlease, hl.active (hlease'' ▸ hstate)⟩

/-- After the inactive leases are discarded, the table counts at least what is active. -/
lemma Invariant.active_le_table (h : Invariant now c) (p : LeaseRef → Bool) :
    (c.provider.issued.filter fun r => p r && isActive c.leases now r).length ≤
      (c.provider.active.entries.filter fun entry =>
        p entry.2 && isActive c.leases now entry.2).length := by
  rw [← @List.length_map _ _ (c.provider.active.entries.filter _) Prod.snd]
  refine (List.subperm_of_subset (h.nodup.filter _) fun r hr => ?_).length_le
  rw [List.mem_filter, Bool.and_eq_true, isActive_iff] at hr
  obtain ⟨hissued, hp, lease, hlease, hstate⟩ := hr
  refine List.mem_map.mpr ⟨(lease.leaseId, r), List.mem_filter.mpr ⟨?_, ?_⟩, rfl⟩
  · exact Dict.mem_entries.mpr (h.kept r hissued lease hlease hstate)
  · simp only [Bool.and_eq_true]
    exact ⟨hp, isActive_iff.mpr ⟨lease, hlease, hstate⟩⟩

/-- A lease may be issued when one more of its feature is within the capacity. -/
lemma Invariant.issue (h : Invariant now c)
    {expiresAt : Datetime} {environment : ProcessEnvironment} {token : String}
    (hroom : (c.provider.issued.filter fun r =>
      hasFeature c.leases feature r && isActive c.leases now r).length <
        c.provider.kind.capacity feature) :
    Invariant now (c.issue feature expiresAt environment token).2 := by
  have hlt (r : LeaseRef) (hr : r ∈ c.provider.issued) : r < c.leases.length := by
    obtain ⟨lease, hlease, -⟩ := h.issued r hr
    exact (List.getElem?_eq_some_iff.mp hlease).1
  have hold (r : LeaseRef) (hr : r ∈ c.provider.issued) (new : LicenseLease) :
      (c.leases ++ [new])[r]? = c.leases[r]? := List.getElem?_append_left (hlt r hr)
  -- the identifier of the new lease is carried by none of the others
  have hfresh (r : LeaseRef) (hr : r ∈ c.provider.issued) (lease : LicenseLease)
      (hlease : c.leases[r]? = some lease) :
      lease.leaseId ≠ c.provider.kind.leaseId (c.provider.counter + 1) token := by
    obtain ⟨lease', hlease', n, token', hn, hid⟩ := h.issued r hr
    rw [hlease, Option.some.injEq] at hlease'
    rw [hlease', hid]
    exact fun heq => absurd (LicenseProviderKind.leaseId_inj heq) (by omega)
  constructor <;> dsimp only [LicenseCustody.issue]
  case issued =>
    intro r hr
    rcases List.mem_append.mp hr with hr | hr
    · obtain ⟨lease, hlease, n, token', hn, hid⟩ := h.issued r hr
      exact ⟨lease, by rw [hold r hr, hlease], n, token', by omega, hid⟩
    · rw [List.mem_singleton] at hr
      subst hr
      exact ⟨_, by rw [List.getElem?_concat_length], _, _, le_rfl, rfl⟩
  case nodup =>
    refine List.nodup_append.mpr ⟨h.nodup, List.nodup_singleton _, fun r hr r' hr' => ?_⟩
    rw [List.mem_singleton.mp hr']
    exact (hlt r hr).ne
  case leaseId_inj =>
    intro r hr r' hr' lease lease' hlease hlease' hid
    rcases List.mem_append.mp hr with hr | hr <;> rcases List.mem_append.mp hr' with hr' | hr'
    · rw [hold r hr] at hlease
      rw [hold r' hr'] at hlease'
      exact h.leaseId_inj r hr r' hr' lease lease' hlease hlease' hid
    · rw [hold r hr] at hlease
      rw [List.mem_singleton.mp hr', List.getElem?_concat_length, Option.some.injEq] at hlease'
      exact absurd (hid.trans (hlease' ▸ rfl)) (hfresh r hr lease hlease)
    · rw [hold r' hr'] at hlease'
      rw [List.mem_singleton.mp hr, List.getElem?_concat_length, Option.some.injEq] at hlease
      exact absurd (hid.symm.trans (hlease ▸ rfl)) (hfresh r' hr' lease' hlease')
    · rw [List.mem_singleton.mp hr, List.mem_singleton.mp hr']
  case held =>
    intro leaseId r hget
    rw [Dict.get?_insert] at hget
    split_ifs at hget with heq
    · rw [Option.some.injEq] at hget
      subst hget
      refine ⟨List.mem_append_right _ (List.mem_singleton_self _), fun lease hlease => ?_⟩
      rw [List.getElem?_concat_length, Option.some.injEq] at hlease
      rw [← hlease, heq]
    · obtain ⟨hr, hid⟩ := h.held leaseId r hget
      exact ⟨List.mem_append_left _ hr, fun lease hlease =>
        hid lease (by rwa [hold r hr] at hlease)⟩
  case kept =>
    intro r hr lease hlease hstate
    rcases List.mem_append.mp hr with hr | hr
    · rw [hold r hr] at hlease
      rw [Dict.get?_insert_of_ne _ _ (hfresh r hr lease hlease)]
      exact h.kept r hr lease hlease hstate
    · rw [List.mem_singleton.mp hr, List.getElem?_concat_length, Option.some.injEq] at hlease
      rw [List.mem_singleton.mp hr, ← hlease, Dict.get?_insert_self]
  case within =>
    intro feature'
    have hcount (new : LicenseLease) : (c.provider.issued.filter fun r =>
        hasFeature (c.leases ++ [new]) feature' r && isActive (c.leases ++ [new]) now r) =
          c.provider.issued.filter fun r =>
            hasFeature c.leases feature' r && isActive c.leases now r :=
      List.filter_congr fun r hr => by rw [hasFeature, isActive, hold r hr]; rfl
    rw [List.filter_append, hcount, List.length_append]
    by_cases hfeature : feature' = feature
    · subst hfeature
      exact (Nat.add_le_add_left (List.length_filter_le _ _) _).trans hroom
    · rw [List.filter_cons_of_neg (by simp [hasFeature, Ne.symm hfeature]), List.filter_nil]
      exact h.within feature'

/-- What a section does to the provider it belongs to, and to the leases of all providers. -/
structure Section (now : Datetime) (c c' : LicenseCustody) : Prop where
  invariant : Invariant now c'
  kind : c'.provider.kind = c.provider.kind
  later : ∀ refs, LaterLeases refs now c.leases now c'.leases
  issued : ∀ r ∈ c.provider.issued, r ∈ c'.provider.issued
  new : ∀ r ∈ c'.provider.issued, r ∈ c.provider.issued ∨ c.leases.length ≤ r

lemma laterLeases_refl (refs : List LeaseRef) (leases : List LicenseLease) :
    LaterLeases refs now leases now leases :=
  fun _ _ lease hlease => ⟨lease, hlease, LaterLease.pass le_rfl⟩

lemma Invariant.section_refl (h : Invariant now c) : Section now c c :=
  ⟨h, rfl, fun refs => laterLeases_refl refs _, fun _ hr => hr, fun _ hr => Or.inl hr⟩

lemma Invariant.section_discardInactive (h : Invariant now c) :
    Section now c (c.discardInactive now) :=
  ⟨h.discardInactive, rfl, laterLeases_discardInactive, fun _ hr => hr, fun _ hr => Or.inl hr⟩

lemma Section.issue (h : Section now c c') {expiresAt : Datetime}
    {environment : ProcessEnvironment} {token : String}
    (hlength : c.leases.length ≤ c'.leases.length)
    (hroom : (c'.provider.issued.filter fun r =>
      hasFeature c'.leases feature r && isActive c'.leases now r).length <
        c'.provider.kind.capacity feature) :
    Section now c (c'.issue feature expiresAt environment token).2 := by
  refine ⟨h.invariant.issue hroom, h.kind, fun refs r hr lease hlease => ?_, fun r hr => ?_,
    fun r hr => ?_⟩
  · obtain ⟨lease', hlease', hl⟩ := h.later refs r hr lease hlease
    refine ⟨lease', ?_, hl⟩
    exact (List.getElem?_append_left (List.getElem?_eq_some_iff.mp hlease').1).trans hlease'
  · exact List.mem_append_left _ (h.issued r hr)
  · rcases List.mem_append.mp hr with hr | hr
    · exact h.new r hr
    · rw [List.mem_singleton.mp hr]
      exact Or.inr hlength

lemma Invariant.section_acquireHost (h : Invariant now c) {isRunId : String → Bool}
    {licenses : HostModuleLicenses} (hkind : c.provider.kind = .host licenses) (call : AcquireCall)
    (answer : AcquireAnswer) :
    Section now c (c.acquireHost isRunId licenses now call answer).2 := by
  rw [acquireHost]
  split
  · exact h.section_refl
  split
  · exact h.section_refl
  split
  · exact h.section_refl
  dsimp only
  split_ifs with hfull
  · exact h.section_discardInactive
  cases answer.environment with
  | none => exact h.section_discardInactive
  | some environment =>
    refine h.section_discardInactive.issue (by simp [LicenseCustody.discardInactive]) ?_
    have hcount := h.discardInactive.active_le_table
      (hasFeature (c.discardInactive now).leases licenses.featureClass)
    have htable := List.length_filter_le (fun entry : String × LeaseRef =>
      hasFeature (c.discardInactive now).leases licenses.featureClass entry.2 &&
        isActive (c.discardInactive now).leases now entry.2)
      (c.discardInactive now).provider.active.entries
    have hcapacity : (c.discardInactive now).provider.kind.capacity licenses.featureClass =
        licenses.maxCheckouts := by
      rw [show (c.discardInactive now).provider.kind = .host licenses from hkind]
      exact if_pos rfl
    omega

lemma Invariant.section_acquireFake (h : Invariant now c) {licenses : FakeLicenses}
    (hkind : c.provider.kind = .fake licenses) (call : AcquireCall) (answer : AcquireAnswer) :
    Section now c (c.acquireFake licenses now call answer).2 := by
  rw [acquireFake]
  split_ifs with httl
  · exact h.section_refl
  dsimp only
  cases hcapacity : licenses.capacities.get? call.featureClass with
  | none => exact h.section_discardInactive
  | some capacity =>
    dsimp only
    split_ifs with hfull
    · exact h.section_discardInactive
    refine h.section_discardInactive.issue (by simp [LicenseCustody.discardInactive]) ?_
    refine (h.discardInactive.active_le_table _).trans_lt ((not_le.mp hfull).trans_eq ?_)
    rw [show (c.discardInactive now).provider.kind = .fake licenses from hkind]
    simp [LicenseProviderKind.capacity, hcapacity]

lemma Invariant.section_acquire (h : Invariant now c) (isRunId : String → Bool)
    (call : AcquireCall) (answer : AcquireAnswer) :
    Section now c (c.acquire isRunId now call answer).2 := by
  rw [acquire]
  cases hkind : c.provider.kind with
  | host licenses => exact h.section_acquireHost hkind call answer
  | fake licenses => exact h.section_acquireFake hkind call answer

/-- A section that puts later versions of leases in place and takes entries out of the table. -/
lemma Invariant.section_later (h : Invariant now c)
    (hlater : ∀ refs, LaterLeases refs now c.leases now leases') {active : Dict String LeaseRef}
    (hsub : ∀ leaseId r, active.get? leaseId = some r → c.provider.active.get? leaseId = some r)
    (hkept : ∀ r ∈ c.provider.issued, ∀ lease', leases'[r]? = some lease' →
      lease'.state now = .active → c.provider.active.get? lease'.leaseId = some r →
      active.get? lease'.leaseId = some r) :
    Section now c ⟨leases', { c.provider with active }⟩ :=
  ⟨h.later (hlater _) hsub hkept, rfl, hlater, fun _ hr => hr, fun _ hr => Or.inl hr⟩

lemma Invariant.section_renew (h : Invariant now c) {lease : LicenseLease}
    (hlease : c.leases[r]? = some lease) (ttlSeconds : Int) :
    Section now c (c.renew now r lease ttlSeconds).2 := by
  have hset {lease' : LicenseLease} (hl : LaterLease now lease now lease') :
      Section now c { c with leases := c.leases.set r lease' } :=
    h.section_later (fun _ => laterLeases_set hlease hl) (fun _ _ hget => hget)
      fun _ _ _ _ _ hget => hget
  rw [renew]
  split_ifs with httl hother
  · exact h.section_refl
  · exact hset LaterLease.read
  · have hactive : lease.state now = .active := not_not.mp fun hne => hother (Or.inr hne)
    exact hset ⟨rfl, rfl, fun _ => hactive⟩

lemma Invariant.section_release (h : Invariant now c) {lease : LicenseLease}
    (hlease : c.leases[r]? = some lease)
    (hown : r ∉ c.provider.issued → lease.leaseId ∉ c.provider.active) :
    Section now c (c.release now r lease).2 := by
  rw [LicenseCustody.release]
  dsimp only
  have hlater : LaterLease now lease now
      ((if c.provider.active.get? lease.leaseId = some r then lease.release
        else lease).read now) := by
    split_ifs
    · exact LaterLease.release.trans LaterLease.read
    · exact LaterLease.read
  refine h.section_later (fun _ => laterLeases_set hlease hlater) (fun leaseId r' hget => ?_) ?_
  · rw [Dict.get?_erase] at hget
    split_ifs at hget
    exact hget
  · intro r' hr' lease' hlease' hstate hget
    refine (Dict.get?_erase_of_ne _ fun hid => ?_).trans hget
    -- the entry that is removed is this lease's own, and the lease is not active any more
    rw [hid] at hget
    have hr : r ∈ c.provider.issued :=
      not_not.mp fun hnot => hown hnot (Dict.mem_of_get? hget)
    obtain ⟨lease₁, hlease₁, -⟩ := h.issued r' hr'
    have heq : r' = r := h.leaseId_inj r' hr' r hr lease₁ lease hlease₁ hlease
      ((h.held _ _ hget).2 lease₁ hlease₁)
    subst heq
    rw [if_pos hget, List.getElem?_set_self (List.getElem?_eq_some_iff.mp hlease).1,
      Option.some.injEq] at hlease'
    rw [← hlease', LicenseLease.state_read le_rfl, LicenseLease.state_release] at hstate
    cases hstate

end LicenseCustody

/-! ### What holds of all of them -/

namespace LicenseWorld

variable {isRunId : String → Bool} {w w' w'' : LicenseWorld}

structure Invariant (w : LicenseWorld) : Prop where
  custody : ∀ (i : Nat) p, w.providers[i]? = some p → LicenseCustody.Invariant w.now ⟨w.leases, p⟩
  disjoint : ∀ (i j : Nat) p q, w.providers[i]? = some p → w.providers[j]? = some q → i ≠ j →
    ∀ r ∈ p.issued, r ∉ q.issued
  expiring : ∀ r ∈ w.expiring, ∃ lease, w.leases[r]? = some lease ∧
    ∀ p ∈ w.providers, r ∈ p.issued → lease.state w.now ≠ .active

/-- Every provider has gone on, and the leases it had issued have. -/
def Onward (w w' : LicenseWorld) : Prop :=
  ∀ (i : Nat) p, w.providers[i]? = some p → ∃ p', w'.providers[i]? = some p' ∧ p'.kind = p.kind ∧
    (∀ r ∈ p.issued, r ∈ p'.issued) ∧ LaterLeases p.issued w.now w.leases w'.now w'.leases

lemma Onward.refl (w : LicenseWorld) : w.Onward w :=
  fun _ p hp => ⟨p, hp, rfl, fun _ hr => hr, laterLeases_refl _ _⟩

lemma Onward.trans (h : w.Onward w') (h' : w'.Onward w'') : w.Onward w'' := by
  intro i p hp
  obtain ⟨p', hp', hkind, hissued, hlater⟩ := h i p hp
  obtain ⟨p'', hp'', hkind', hissued', hlater'⟩ := h' i p' hp'
  refine ⟨p'', hp'', hkind'.trans hkind, fun r hr => hissued' r (hissued r hr),
    fun r hr lease hlease => ?_⟩
  obtain ⟨lease', hlease', hl⟩ := hlater r hr lease hlease
  obtain ⟨lease'', hlease'', hl'⟩ := hlater' r (hissued r hr) lease' hlease'
  exact ⟨lease'', hlease'', hl.trans hl'⟩

/-- A step that leaves the providers as they are. -/
lemma Invariant.frame (h : w.Invariant) (hproviders : w'.providers = w.providers)
    (hlater : ∀ p ∈ w.providers, LaterLeases p.issued w.now w.leases w'.now w'.leases)
    (hexpiring : ∀ r ∈ w'.expiring, ∃ lease, w'.leases[r]? = some lease ∧
      ∀ p ∈ w.providers, r ∈ p.issued → lease.state w'.now ≠ .active) :
    w'.Invariant ∧ w.Onward w' := by
  refine ⟨⟨?_, ?_, ?_⟩, ?_⟩
  · intro i p hp
    rw [hproviders] at hp
    exact (h.custody i p hp).later (hlater p (List.mem_of_getElem? hp)) (fun _ _ hget => hget)
      fun _ _ _ _ _ hget => hget
  · rw [hproviders]
    exact h.disjoint
  · rw [hproviders]
    exact hexpiring
  · intro i p hp
    exact ⟨p, by rw [hproviders, hp], rfl, fun _ hr => hr, hlater p (List.mem_of_getElem? hp)⟩

/-- A step that makes the leases older keeps what is known of those that have expired. -/
lemma Invariant.expiring_later (h : w.Invariant) {now : Datetime} {leases : List LicenseLease}
    (hlater : ∀ refs, LaterLeases refs w.now w.leases now leases) :
    ∀ r ∈ w.expiring, ∃ lease, leases[r]? = some lease ∧
      ∀ p ∈ w.providers, r ∈ p.issued → lease.state now ≠ .active := by
  intro r hr
  obtain ⟨lease, hlease, hstate⟩ := h.expiring r hr
  obtain ⟨lease', hlease', hl⟩ := hlater w.expiring r hr lease hlease
  exact ⟨lease', hlease', fun p hp hissued hactive => hstate p hp hissued (hl.active hactive)⟩

lemma Invariant.pass (h : w.Invariant) (time : Nat) :
    ({ w with now := w.now + time } : LicenseWorld).Invariant ∧
      w.Onward { w with now := w.now + time } := by
  have hlater (refs : List LeaseRef) :
      LaterLeases refs w.now w.leases (w.now + time) w.leases :=
    fun _ _ lease hlease =>
      ⟨lease, hlease, LaterLease.pass (Int.le_add_of_nonneg_right (Int.natCast_nonneg time))⟩
  exact h.frame rfl (fun p _ => hlater p.issued) (h.expiring_later hlater)

variable {p : LicenseProvider} {i : Nat}

/-- A call at one provider. -/
lemma Invariant.put (h : w.Invariant) (hp : w.providers[i]? = some p) {c : LicenseCustody}
    (hc : LicenseCustody.Section w.now ⟨w.leases, p⟩ c) :
    (w.put i c).Invariant ∧ w.Onward (w.put i c) := by
  have hi : i < w.providers.length := (List.getElem?_eq_some_iff.mp hp).1
  have hself : (w.put i c).providers[i]? = some c.provider := List.getElem?_set_self hi
  have hother {j : Nat} (hj : j ≠ i) : (w.put i c).providers[j]? = w.providers[j]? :=
    List.getElem?_set_ne (Ne.symm hj)
  have hlt {j : Nat} {q : LicenseProvider} (hq : w.providers[j]? = some q) (r : LeaseRef)
      (hr : r ∈ q.issued) : r < w.leases.length := by
    obtain ⟨lease, hlease, -⟩ := (h.custody j q hq).issued r hr
    exact (List.getElem?_eq_some_iff.mp hlease).1
  -- what the call has issued, no other provider had issued before
  have hapart {j : Nat} {q : LicenseProvider} (hq : w.providers[j]? = some q) (hj : j ≠ i)
      (r : LeaseRef) (hr : r ∈ q.issued) : r ∉ c.provider.issued := by
    intro hc'
    rcases hc.new r hc' with hold | hnew
    · exact h.disjoint j i q p hq hp hj r hr hold
    · exact absurd (hlt hq r hr) (not_lt.mpr hnew)
  refine ⟨⟨fun j q hq => ?_, fun j k q q' hq hq' hjk r hr => ?_, fun r hr => ?_⟩,
    fun j q hq => ?_⟩
  · by_cases hj : j = i
    · subst hj
      rw [hself, Option.some.injEq] at hq
      exact hq ▸ hc.invariant
    · rw [hother hj] at hq
      exact (h.custody j q hq).later (hc.later _) (fun _ _ hget => hget)
        fun _ _ _ _ _ hget => hget
  · by_cases hj : j = i
    · subst hj
      rw [hself, Option.some.injEq] at hq
      rw [hother (Ne.symm hjk)] at hq'
      exact fun hr' => hapart hq' (Ne.symm hjk) r hr' (hq ▸ hr)
    · rw [hother hj] at hq
      by_cases hk : k = i
      · subst hk
        rw [hself, Option.some.injEq] at hq'
        exact hq' ▸ hapart hq hj r hr
      · rw [hother hk] at hq'
        exact h.disjoint j k q q' hq hq' hjk r hr
  · obtain ⟨lease, hlease, hstate⟩ := h.expiring r hr
    obtain ⟨lease', hlease', hl⟩ := hc.later w.expiring r hr lease hlease
    refine ⟨lease', hlease', fun q hq hissued hactive => ?_⟩
    obtain ⟨j, hj⟩ := List.getElem?_of_mem hq
    by_cases hji : j = i
    · subst hji
      rw [hself, Option.some.injEq] at hj
      rcases hc.new r (hj ▸ hissued) with hold | hnew
      · exact hstate p (List.mem_of_getElem? hp) hold (hl.active hactive)
      · exact absurd (List.getElem?_eq_some_iff.mp hlease).1 (not_lt.mpr hnew)
    · rw [hother hji] at hj
      exact hstate q (List.mem_of_getElem? hj) hissued (hl.active hactive)
  · by_cases hj : j = i
    · subst hj
      rw [hp, Option.some.injEq] at hq
      subst hq
      exact ⟨c.provider, hself, hc.kind, hc.issued, hc.later _⟩
    · exact ⟨q, by rw [hother hj, hq], rfl, fun _ hr => hr, hc.later _⟩

/-- What one step preserves. -/
lemma Invariant.step (h : w.Invariant) (hstep : Step isRunId w w') :
    w'.Invariant ∧ w.Onward w' := by
  obtain ⟨a, hown, hstep⟩ := hstep
  cases a with
  | pass time =>
    obtain rfl : _ = w' := Option.some.inj hstep
    exact h.pass time
  | acquire i call answer =>
    simp only [LicenseWorld.step] at hstep
    split at hstep
    · cases hstep
    · rename_i p hp
      obtain rfl : _ = w' := Option.some.inj hstep
      have hput := h.put hp ((h.custody i p hp).section_acquire isRunId call answer)
      have hpass := hput.1.pass answer.lasted
      exact ⟨hpass.1, hput.2.trans hpass.2⟩
  | renew i r ttlSeconds =>
    simp only [LicenseWorld.step] at hstep
    split at hstep
    · rename_i p lease hp hlease
      obtain rfl : _ = w' := Option.some.inj hstep
      exact h.put hp ((h.custody i p hp).section_renew hlease ttlSeconds)
    · cases hstep
  | release i r =>
    simp only [LicenseWorld.step] at hstep
    split at hstep
    · rename_i p lease hp hlease
      obtain rfl : _ = w' := Option.some.inj hstep
      exact h.put hp ((h.custody i p hp).section_release hlease (hown p lease hp hlease))
    · cases hstep
  | readExpired r =>
    simp only [LicenseWorld.step] at hstep
    split at hstep
    · rename_i lease hlease
      split_ifs at hstep with hexpired
      obtain rfl : _ = w' := Option.some.inj hstep
      refine h.frame rfl (fun p _ => laterLeases_refl _ _) fun r' hr' => ?_
      rcases List.mem_cons.mp hr' with rfl | hr'
      · exact ⟨lease, hlease, fun _ _ _ hactive => by simp [hexpired] at hactive⟩
      · exact h.expiring r' hr'
    · cases hstep
  | markExpired r =>
    simp only [LicenseWorld.step] at hstep
    split at hstep
    · rename_i lease hlease
      split_ifs at hstep
      obtain rfl : _ = w' := Option.some.inj hstep
      have hlater (refs : List LeaseRef) : LaterLeases refs w.now w.leases w.now
          (w.leases.set r { lease with mark := .expired }) :=
        laterLeases_set hlease ⟨rfl, rfl, fun hactive => by
          simp [LicenseLease.state_eq_active] at hactive⟩
      exact h.frame rfl (fun p _ => hlater _) (h.expiring_later hlater)
    · cases hstep
  | makeOther lease =>
    obtain rfl : _ = w' := Option.some.inj hstep
    have hlater (refs : List LeaseRef) :
        LaterLeases refs w.now w.leases w.now (w.leases ++ [lease]) := by
      intro r _ lease' hlease'
      refine ⟨lease', ?_, LaterLease.pass le_rfl⟩
      exact (List.getElem?_append_left (List.getElem?_eq_some_iff.mp hlease').1).trans hlease'
    exact h.frame rfl (fun p _ => hlater _) (h.expiring_later hlater)
  | changeOther r lease =>
    simp only [LicenseWorld.step] at hstep
    split_ifs at hstep with hother
    obtain rfl : _ = w' := Option.some.inj hstep
    refine h.frame rfl (fun p hp r' hr' lease' hlease' => ?_) fun r' hr' => ?_
    · have hne : r ≠ r' := fun heq => hother p hp (heq ▸ hr')
      exact ⟨lease', by rw [List.getElem?_set_ne hne, hlease'], LaterLease.pass le_rfl⟩
    · obtain ⟨lease', hlease', hstate⟩ := h.expiring r' hr'
      by_cases heq : r = r'
      · subst heq
        exact ⟨lease, List.getElem?_set_self (List.getElem?_eq_some_iff.mp hlease').1,
          fun p hp hissued => absurd hissued (hother p hp)⟩
      · exact ⟨lease', by rw [List.getElem?_set_ne heq, hlease'], hstate⟩

/-- What a whole run preserves. -/
lemma Invariant.steps (h : w.Invariant) (hsteps : Steps isRunId w w') :
    w'.Invariant ∧ w.Onward w' := by
  induction hsteps with
  | refl => exact ⟨h, Onward.refl w⟩
  | tail _ hstep ih =>
    obtain ⟨hinv, honward⟩ := ih.1.step hstep
    exact ⟨hinv, ih.2.trans honward⟩

lemma Initial.invariant (h : w.Initial) : w.Invariant := by
  refine ⟨fun i p hp => ?_, fun i j p q hp _ _ r hr => ?_, fun r hr => ?_⟩
  · obtain ⟨hactive, hissued⟩ := h.providers p (List.mem_of_getElem? hp)
    constructor <;> simp [hactive, hissued, Dict.get?, Dict.empty]
  · rw [(h.providers p (List.mem_of_getElem? hp)).2] at hr
    cases hr
  · rw [h.expiring] at hr
    cases hr

/-! ### Leases of others -/

/-- Nothing is changed but what a read of the lease writes down. -/
structure OnlyRead (w w' : LicenseWorld) (r : LeaseRef) (lease : LicenseLease) : Prop where
  providers : w'.providers = w.providers
  now : w'.now = w.now
  others : ∀ r' ≠ r, w'.leases[r']? = w.leases[r']?
  lease : ∃ lease', w'.leases[r]? = some lease' ∧
    { lease' with mark := lease.mark } = lease ∧
    ∀ later, w.now ≤ later → lease'.state later = lease.state later ∧
      lease'.processEnvironment later = lease.processEnvironment later

variable {r : LeaseRef}

lemma onlyRead_put (hp : w.providers[i]? = some p)
    {lease lease' : LicenseLease} (hlease : w.leases[r]? = some lease)
    (h : lease' = lease ∨ lease' = lease.read w.now) :
    OnlyRead w (w.put i ⟨w.leases.set r lease', p⟩) r lease := by
  obtain ⟨hi, hpi⟩ := List.getElem?_eq_some_iff.mp hp
  refine ⟨?_, rfl, fun r' hr' => List.getElem?_set_ne (Ne.symm hr'), lease',
    List.getElem?_set_self (List.getElem?_eq_some_iff.mp hlease).1, ?_, fun later hlater => ?_⟩
  · rw [put, ← hpi, List.set_getElem_self]
  · rcases h with rfl | rfl <;> rfl
  · rcases h with rfl | rfl
    · exact ⟨rfl, rfl⟩
    · have hstate := @LicenseLease.state_read lease _ _ hlater
      exact ⟨hstate, by simp only [LicenseLease.processEnvironment, hstate]; rfl⟩

variable {lease : LicenseLease}

lemma Invariant.renew_other (h : w.Invariant) (hp : w.providers[i]? = some p) (hr : r ∉ p.issued)
    (hlease : w.leases[r]? = some lease) {ttlSeconds : Int}
    (hstep : w.step isRunId (.renew i r ttlSeconds) = some w') : OnlyRead w w' r lease := by
  simp only [LicenseWorld.step, hp, hlease, Option.some.injEq] at hstep
  have hnot : p.active.get? lease.leaseId ≠ some r :=
    fun hget => hr ((h.custody i p hp).held _ _ hget).1
  rw [← hstep, renew]
  split
  · obtain ⟨hlt, hget⟩ := List.getElem?_eq_some_iff.mp hlease
    have hput := onlyRead_put hp hlease (Or.inl rfl)
    rwa [← hget, List.set_getElem_self, hget] at hput
  · rw [if_pos (Or.inl hnot)]
    exact onlyRead_put hp hlease (Or.inr rfl)

lemma Invariant.release_other (h : w.Invariant) (hp : w.providers[i]? = some p) (hr : r ∉ p.issued)
    (hlease : w.leases[r]? = some lease) (hid : lease.leaseId ∉ p.active)
    (hstep : w.step isRunId (.release i r) = some w') : OnlyRead w w' r lease := by
  simp only [LicenseWorld.step, hp, hlease, Option.some.injEq] at hstep
  have hnot : p.active.get? lease.leaseId ≠ some r :=
    fun hget => hr ((h.custody i p hp).held _ _ hget).1
  have herase : p.active.erase lease.leaseId = p.active := by
    rw [Dict.erase_eq_filterKeys]
    exact Dict.filterKeys_eq_self fun k hk => decide_eq_true fun heq => hid (heq ▸ hk)
  rw [← hstep, release]
  simp only [herase, if_neg hnot]
  exact onlyRead_put hp hlease (Or.inr rfl)

/-- A lease is not active when its own provider has released it. -/
lemma Invariant.release_own (h : w.Invariant) (hp : w.providers[i]? = some p) (hr : r ∈ p.issued)
    (hstep : w.step isRunId (.release i r) = some w') :
    w'.Invariant ∧ ∃ p', w'.providers[i]? = some p' ∧ r ∈ p'.issued ∧
      ∃ lease, w'.leases[r]? = some lease ∧ lease.state w'.now ≠ .active := by
  obtain ⟨lease, hlease, -⟩ := (h.custody i p hp).issued r hr
  have hown : w.RemovesOwn (.release i r) := by
    intro p' lease' hp' _ hnot
    rw [hp, Option.some.injEq] at hp'
    exact absurd (hp' ▸ hr) hnot
  obtain ⟨hinv, honward⟩ := h.step ⟨_, hown, hstep⟩
  obtain ⟨p', hp', -, hissued, -⟩ := honward i p hp
  refine ⟨hinv, p', hp', hissued r hr, ?_⟩
  simp only [LicenseWorld.step, hp, hlease, Option.some.injEq] at hstep
  subst hstep
  refine ⟨_, List.getElem?_set_self (List.getElem?_eq_some_iff.mp hlease).1, ?_⟩
  change LicenseLease.state (LicenseLease.read _ w.now) w.now ≠ .active
  rw [LicenseLease.state_read le_rfl]
  split_ifs with howned
  · rw [LicenseLease.state_release]
    decide
  · exact fun hactive => howned ((h.custody i p hp).kept r hr lease hlease hactive)

/-- What is not active any more stays so, and its environment is not handed out. -/
lemma Onward.not_active (h : w.Onward w') (hp : w.providers[i]? = some p) (hr : r ∈ p.issued)
    (hlease : w.leases[r]? = some lease) (hstate : lease.state w.now ≠ .active) :
    ∃ lease', w'.leases[r]? = some lease' ∧ lease'.state w'.now ≠ .active ∧
      lease'.processEnvironment w'.now =
        .error (.unavailable "license lease is no longer active") := by
  obtain ⟨p', -, -, -, hlater⟩ := h i p hp
  obtain ⟨lease', hlease', hl⟩ := hlater r hr lease hlease
  have hstate' : lease'.state w'.now ≠ .active := fun hactive => hstate (hl.active hactive)
  exact ⟨lease', hlease', hstate', LicenseLease.processEnvironment_of_not_active hstate'⟩

end LicenseWorld

open LicenseWorld in
/-- As long as no provider removes a lease of its own for a lease of another: its active leases are
within the capacity, a lease that has been active and is so no more is not active again, and what
another has issued is only read. -/
theorem license_capacity_kept {isRunId : String → Bool} {w₀ w : LicenseWorld} (h₀ : w₀.Initial)
    (hw : Steps isRunId w₀ w) {i : Nat} {p : LicenseProvider} (hp : w.providers[i]? = some p) :
    (∀ feature, (w.activeLeases p feature).length ≤ p.kind.capacity feature) ∧
    (∀ r ∈ p.issued, ∃ lease, w.leases[r]? = some lease ∧
      (lease.state w.now ≠ .active → ∀ w', Steps isRunId w w' →
        ∃ lease', w'.leases[r]? = some lease' ∧
        lease'.state w'.now ≠ .active ∧ lease'.processEnvironment w'.now =
          .error (.unavailable "license lease is no longer active"))) ∧
    (∀ r ∈ p.issued, ∀ w₁, w.step isRunId (.release i r) = some w₁ →
      ∀ w', Steps isRunId w₁ w' → ∃ lease', w'.leases[r]? = some lease' ∧
        lease'.state w'.now ≠ .active ∧ lease'.processEnvironment w'.now =
          .error (.unavailable "license lease is no longer active")) ∧
    (∀ r ∉ p.issued, ∀ lease, w.leases[r]? = some lease →
      (∀ ttlSeconds w', w.step isRunId (.renew i r ttlSeconds) = some w' → OnlyRead w w' r lease) ∧
      (lease.leaseId ∉ p.active →
        ∀ w', w.step isRunId (.release i r) = some w' → OnlyRead w w' r lease)) := by
  have hinv := (h₀.invariant.steps hw).1
  refine ⟨(hinv.custody i p hp).within, fun r hr => ?_, fun r hr w₁ hstep w' hw' => ?_,
    fun r hr lease hlease => ⟨fun ttlSeconds w' hstep => ?_, fun hid w' hstep => ?_⟩⟩
  · obtain ⟨lease, hlease, -⟩ := (hinv.custody i p hp).issued r hr
    exact ⟨lease, hlease, fun hstate w' hw' => (hinv.steps hw').2.not_active hp hr hlease hstate⟩
  · obtain ⟨hinv₁, p₁, hp₁, hr₁, lease, hlease, hstate⟩ := hinv.release_own hp hr hstep
    exact (hinv₁.steps hw').2.not_active hp₁ hr₁ hlease hstate
  · exact hinv.renew_other hp hr hlease hstep
  · exact hinv.release_other hp hr hlease hid hstep

/-- Two providers with one license each. -/
def twoFakeProviders : LicenseWorld where
  now := 0
  leases := []
  providers :=
    let kind := .fake ⟨Dict.ofList [("simulation", 1)], rfl, by decide⟩
    [⟨"first_license", kind, .empty, 0, []⟩, ⟨"second_license", kind, .empty, 0, []⟩]

theorem twoFakeProviders_within :
    ∃ w p, twoFakeProviders.step (fun _ => true) (.acquire 0 ⟨"simulation", "run", 60⟩ {}) =
      some w ∧
      w.providers[0]? = some p ∧ w.activeLeases p "simulation" = [0] ∧
      (w.activeLeases p "simulation").length ≤ p.kind.capacity "simulation" :=
  ⟨_, _, rfl, rfl, by decide, (@license_capacity_kept (fun _ => true) twoFakeProviders _
    ⟨rfl, rfl, by simp [twoFakeProviders]⟩
    (.single ⟨.acquire 0 ⟨"simulation", "run", 60⟩ {}, trivial, rfl⟩) 0 _ rfl).1 "simulation"⟩

/-- A lease of the second provider carries the identifier of the first one's lease, and is released
with the first: the first then has one license and two active leases. -/
theorem foreign_release_exceeds_capacity :
    ∃ w p, [.acquire 0 ⟨"simulation", "run", 60⟩ {}, .acquire 1 ⟨"simulation", "run", 60⟩ {},
        .release 0 1, .acquire 0 ⟨"simulation", "run", 60⟩ {}].foldlM
          (LicenseWorld.step fun _ => true) twoFakeProviders = some w ∧
      w.providers[0]? = some p ∧ p.kind.capacity "simulation" = 1 ∧
      w.activeLeases p "simulation" = [0, 2] := by
  refine ⟨_, _, rfl, rfl, ?_, ?_⟩ <;> decide

end EdaGym
