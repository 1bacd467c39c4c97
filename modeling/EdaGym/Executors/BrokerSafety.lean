import EdaGym.Executors.BrokerProtocol

/-!
# What a fence keeps

What the files and the domain of one invocation can become, and what cannot happen behind its fence.
-/

namespace EdaGym

variable {ρ : Type}

/-! ### The moves of an invocation -/

structure BrokerInvariant (s : BrokerWorld ρ) : Prop where
  unprepared : s.jobDirectory = false → s.fence = .absent ∧ s.record = .absent
  unrecorded : (∀ r, s.record ≠ .file r) → s.definitions = 0
  definitions_le : s.definitions ≤ 1
  undefined : s.definitions = 0 → s.domain = .absent
  fenced : ∀ d m c, BrokerReport.cleanup d m c ∈ s.reports → s.fence = .file d ∧ s.record ≠ .torn
  gone : ∀ d c, BrokerReport.cleanup d false c ∈ s.reports → s.domain = .absent

/-- The domain changes, and does not come to exist. -/
inductive BrokerFree (s : BrokerWorld ρ) : BrokerWorld ρ → Prop
  | domain (d : LibvirtDomain) (h : s.domain = .absent → d = .absent) :
      BrokerFree s { s with domain := d }

/-- What a record can become. -/
inductive LibvirtBrokerRecord.Advances :
    LibvirtBrokerRecord ρ → LibvirtBrokerRecord ρ → Prop
  | defined : Advances .prepared .defined
  | running : Advances .defined .running
  | terminal (r : LibvirtBrokerRecord ρ) (result : ρ) (h : ∀ result', r ≠ .terminal result') :
      Advances r (.terminal result)

/-- When an operation may be seen to end so. -/
def BrokerWorld.Reports (s : BrokerWorld ρ) : BrokerReport ρ → Prop
  | .unknownJob => True
  | .notCanonical => s.record = .torn
  | .cleanup d machine _ =>
    s.fence = .file d ∧ s.record ≠ .torn ∧ (machine = false → s.domain = .absent)
  | _ => s.fence = .absent

/-- What is done under the lock. -/
inductive BrokerLocked (s : BrokerWorld ρ) : BrokerWorld ρ → Prop
  | free {s' : BrokerWorld ρ} (h : BrokerFree s s') : BrokerLocked s s'
  | makeDirectory : BrokerLocked s { s with jobDirectory := true }
  | createFence (file : BrokerFile String) (hdirectory : s.jobDirectory = true)
      (hfence : s.fence = .absent) : BrokerLocked s { s with fence := file }
  | createRecord (file : BrokerFile (LibvirtBrokerRecord ρ)) (hdirectory : s.jobDirectory = true)
      (hfence : s.fence = .absent) (hrecord : s.record = .absent)
      (hcreated : file = .torn ∨ file = .file .prepared) : BrokerLocked s { s with record := file }
  | define (r : LibvirtBrokerRecord ρ) (hfence : s.fence = .absent) (hrecord : s.record = .file r)
      (hnone : s.definitions = 0) : BrokerLocked s s.defineDomain
  | start (hfence : s.fence = .absent) (hdomain : s.domain = .shutOff) :
      BrokerLocked s s.startDomain
  | write (r r' : LibvirtBrokerRecord ρ) (hfence : s.fence = .absent)
      (hrecord : s.record = .file r) (hadvances : r.Advances r') :
      BrokerLocked s { s with record := .file r' }
  | report (r : BrokerReport ρ) (h : s.Reports r) :
      BrokerLocked s { s with reports := s.reports ++ [r] }

lemma BrokerFree.same (s : BrokerWorld ρ) : BrokerFree s s := .domain s.domain id

lemma BrokerFree.destroy (s : BrokerWorld ρ) : BrokerFree s s.destroyDomain := by
  refine .domain _ fun habsent => ?_
  rw [habsent]

lemma BrokerFree.undefine (s : BrokerWorld ρ) : BrokerFree s s.undefineDomain := by
  refine .domain _ fun habsent => ?_
  rw [habsent]

namespace BrokerInvariant

variable {s s' : BrokerWorld ρ}

lemma free (h : BrokerInvariant s) (hmove : BrokerFree s s') : BrokerInvariant s' := by
  cases hmove with
  | domain d hd =>
    exact ⟨h.unprepared, h.unrecorded, h.definitions_le, fun hnone => hd (h.undefined hnone),
      h.fenced, fun d' c hmem => hd (h.gone d' c hmem)⟩

/-- Before the fence nothing was cleaned up. -/
lemma no_cleanup (h : BrokerInvariant s) (hfence : s.fence = .absent) (d : String) (m c : Bool) :
    BrokerReport.cleanup d m c ∉ s.reports := by
  intro hmem
  have hfile := (h.fenced d m c hmem).1
  rw [hfence] at hfile
  cases hfile

lemma locked (h : BrokerInvariant s) (hmove : BrokerLocked s s') : BrokerInvariant s' := by
  cases hmove with
  | free hmove => exact h.free hmove
  | makeDirectory =>
    exact ⟨fun hfalse => (nomatch hfalse), h.unrecorded, h.definitions_le, h.undefined, h.fenced,
      h.gone⟩
  | createFence file hdirectory hfence =>
    refine ⟨fun hfalse => ?_, h.unrecorded, h.definitions_le, h.undefined,
      fun d m c hmem => absurd hmem (h.no_cleanup hfence d m c), h.gone⟩
    cases hdirectory.symm.trans hfalse
  | createRecord file hdirectory hfence hrecord hcreated =>
    refine ⟨fun hfalse => ?_, fun _ => h.unrecorded fun r hr => ?_, h.definitions_le, h.undefined,
      fun d m c hmem => absurd hmem (h.no_cleanup hfence d m c), h.gone⟩
    · cases hdirectory.symm.trans hfalse
    · cases hrecord.symm.trans hr
  | define r hfence hrecord hnone =>
    refine ⟨h.unprepared, fun hfile => absurd hrecord (hfile r), ?_, fun hzero => ?_,
      h.fenced, fun d c hmem => absurd hmem (h.no_cleanup hfence d false c)⟩
    · show s.definitions + 1 ≤ 1
      omega
    · cases hzero
  | start hfence hdomain =>
    refine ⟨h.unprepared, h.unrecorded, h.definitions_le, fun hzero => ?_, h.fenced,
      fun d c hmem => absurd hmem (h.no_cleanup hfence d false c)⟩
    cases hdomain.symm.trans (h.undefined hzero)
  | write r r' hfence hrecord hadvances =>
    refine ⟨fun hfalse => ?_, fun hfile => absurd rfl (hfile r'), h.definitions_le, h.undefined,
      fun d m c hmem => absurd hmem (h.no_cleanup hfence d m c), h.gone⟩
    cases hrecord.symm.trans (h.unprepared hfalse).2
  | report r hreports =>
    refine ⟨h.unprepared, h.unrecorded, h.definitions_le, h.undefined, fun d m c hmem => ?_,
      fun d c hmem => ?_⟩
    · rcases List.mem_append.mp hmem with hmem | hmem
      · exact h.fenced d m c hmem
      · cases List.mem_singleton.mp hmem
        exact ⟨hreports.1, hreports.2.1⟩
    · rcases List.mem_append.mp hmem with hmem | hmem
      · exact h.gone d c hmem
      · cases List.mem_singleton.mp hmem
        exact hreports.2.2 rfl

end BrokerInvariant

def brokerMoves (ρ : Type) : (brokerSetting ρ BrokerCall.Truthful).Moves where
  inv := BrokerInvariant
  locked := BrokerLocked
  free := BrokerFree
  inv_locked _ _ h hmove := h.locked hmove
  inv_free _ _ h hmove := h.free hmove
  inv_env _ s' h hmove := by
    obtain rfl : s' = _ := hmove
    exact h.free (.destroy _)

lemma brokerMoves_beside {s s' : BrokerWorld ρ} (h : (brokerMoves ρ).Beside s s') :
    BrokerFree s s' := by
  rcases h with h | h
  · exact h
  · obtain rfl : s' = _ := h
    exact .destroy s

lemma brokerMoves_around {s s' : BrokerWorld ρ} (h : (brokerMoves ρ).Around s s') :
    BrokerLocked s s' := by
  rcases h with h | h | h
  · exact h
  · exact .free h
  · obtain rfl : s' = _ := h
    exact .free (.destroy s)

end EdaGym
