import EdaGym.Providers.BudgetLedger
import Mathlib.Algebra.Order.Monoid.Prod
import Mathlib.Algebra.Order.Ring.Int
import Mathlib.Data.Int.ConditionallyCompleteOrder
import Mathlib.Tactic.Linarith

/-!
# The budget ledger under threads

Any number of threads call the ledger and its reservations. A call is one section under the lock
of the ledger or of the reservation, and a call that closes a reservation has a second one, under
the ledger's lock: between the two any other thread may take any of its sections. The counters
are shown to be sums over the reservations whenever no call is in progress, by simulation of the
abstract ledger.
-/

namespace EdaGym

open Process

/-! ### Interleavings -/

/-- A reservation object; objects are numbered in the order in which they are made. -/
abbrev ReservationId := Nat

abbrev ThreadId := Nat

inductive BudgetCall
  | reserve (trialId : Identifier) (inputTokens outputTokens : Int)
  | markDispatched (reservation : ReservationId)
  | settle (reservation : ReservationId) (inputTokens outputTokens : Int)
  | settleUnknown (reservation : ReservationId)
  | cancel (reservation : ReservationId)
deriving DecidableEq

/-- The reservation a method is called on. -/
def BudgetCall.reservation : BudgetCall → Option ReservationId
  | .reserve _ _ _ => none
  | .markDispatched k | .settle k _ _ | .settleUnknown k | .cancel k => some k

/-- A call that has ended, by returning or by raising, with the object it was made on. -/
structure EndedCall where
  call : BudgetCall
  on : Option BudgetReservation
  outcome : Except BudgetError PUnit

structure BudgetWorld where
  ledger : BudgetLedger
  reservations : List BudgetReservation := []
  /-- The calls that have left the section of their reservation and wait for the ledger's lock. -/
  waiting : Dict ThreadId BudgetCall := .empty
  history : List EndedCall := []

inductive BudgetAction
  | enter (thread : ThreadId) (call : BudgetCall)
  | resume (thread : ThreadId)
deriving DecidableEq

namespace BudgetWorld

def initial (limits : BudgetLimits) : BudgetWorld := { ledger := { limits } }

/-- The end of a call. -/
def ends (w : BudgetWorld) (call : BudgetCall) (outcome : Except BudgetError PUnit) :
    BudgetWorld :=
  { w with history := w.history ++
      [⟨call, call.reservation.bind fun k => w.reservations[k]?, outcome⟩] }

/-- A section under a reservation's lock; the call goes on when `goesOn` holds. -/
def mark (w : BudgetWorld) (thread : ThreadId) (call : BudgetCall) (k : ReservationId)
    (check : BudgetReservation → Except BudgetError BudgetReservation) (goesOn : Bool) :
    Option BudgetWorld :=
  match w.reservations[k]? with
  | none => none
  | some r =>
    match check r with
    | .error e => some (w.ends call (.error e))
    | .ok r' =>
      let w' := { w with reservations := w.reservations.set k r' }
      if goesOn then some { w' with waiting := w.waiting.insert thread call }
      else some (w'.ends call (.ok ⟨⟩))

/-- The first section of a call. -/
def enter (w : BudgetWorld) (thread : ThreadId) (call : BudgetCall) : Option BudgetWorld :=
  match call with
  | .reserve trialId inputTokens outputTokens =>
    match (BudgetLedger.reserve trialId inputTokens outputTokens).exec w.ledger with
    | (.error e, ledger) => some ({ w with ledger }.ends call (.error e))
    | (.ok r, ledger) =>
      some ({ w with ledger, reservations := w.reservations ++ [r] }.ends call (.ok ⟨⟩))
  | .markDispatched k => w.mark thread call k BudgetReservation.markDispatched false
  | .settle k _ _ => w.mark thread call k BudgetReservation.markSettled true
  | .settleUnknown k => w.mark thread call k BudgetReservation.markSettled true
  | .cancel k => w.mark thread call k BudgetReservation.markCancelled true

/-- What a closing call does under the ledger's lock. -/
def ledgerSection (w : BudgetWorld) :
    BudgetCall → Option (Process BudgetLedger BudgetError PUnit)
  | .settle k inputTokens outputTokens =>
    w.reservations[k]?.map fun r => BudgetLedger.settle r inputTokens outputTokens
  | .settleUnknown k => w.reservations[k]?.map BudgetLedger.settleUnknown
  | .cancel k => w.reservations[k]?.map BudgetLedger.cancel
  | .reserve _ _ _ | .markDispatched _ => none

/-- One section of one thread; `none` where the thread is not there to take it. -/
def step (w : BudgetWorld) : BudgetAction → Option BudgetWorld
  | .enter thread call => if thread ∈ w.waiting then none else w.enter thread call
  | .resume thread =>
    match w.waiting.get? thread with
    | none => none
    | some call => (w.ledgerSection call).map fun p =>
        { w with ledger := (p.exec w.ledger).2, waiting := w.waiting.erase thread }.ends call
          (p.exec w.ledger).1

def run (w : BudgetWorld) : List BudgetAction → Option BudgetWorld
  | [] => some w
  | a :: as => (w.step a).bind fun w' => w'.run as

end BudgetWorld

/-- The usages a call reports are not negative. -/
def BudgetCall.NonNegative : BudgetCall → Prop
  | .settle _ inputTokens outputTokens => 0 ≤ inputTokens ∧ 0 ≤ outputTokens
  | _ => True

def BudgetAction.NonNegative : BudgetAction → Prop
  | .enter _ call => call.NonNegative
  | .resume _ => True

/-! ### What a history says -/

/-- Requests, input tokens and output tokens. -/
abbrev Tokens := Int × Int × Int

def BudgetReservation.claim (r : BudgetReservation) : Tokens := (1, r.inputTokens, r.outputTokens)

def BudgetLedger.reserved (l : BudgetLedger) : Tokens :=
  (l.reservedRequests, l.reservedInput, l.reservedOutput)

def BudgetLedger.committed (l : BudgetLedger) : Tokens :=
  (l.committedRequests, l.committedInput, l.committedOutput)

def TrialUsage.account (t : TrialUsage) : Account Tokens where
  reserved := (t.reservedRequests, t.reservedInputTokens, t.reservedOutputTokens)
  committed := (t.committedRequests, t.committedInputTokens, t.committedOutputTokens)

/-- The usage that was reported when a reservation was settled. -/
structure ReservationSettlement where
  reservation : ReservationId
  trialId : Identifier
  claim : Tokens
  usage : Tokens

/-- More was used than reserved. -/
def ReservationSettlement.Overrun (s : ReservationSettlement) : Prop :=
  s.claim.2.1 < s.usage.2.1 ∨ s.claim.2.2 < s.usage.2.2

namespace EndedCall

/-- A settlement that ends in the overrun error has settled all the same. -/
def settled (e : EndedCall) : Bool :=
  match e.outcome with
  | .ok _ => true
  | .error error => error = .overrun

def settlement? (e : EndedCall) : Option ReservationSettlement :=
  match e.call, e.on with
  | .settle k inputTokens outputTokens, some r =>
    if e.settled then some ⟨k, r.trialId, r.claim, (1, inputTokens, outputTokens)⟩ else none
  | .settleUnknown k, some r => if e.settled then some ⟨k, r.trialId, r.claim, r.claim⟩ else none
  | _, _ => none

def cancellation? (e : EndedCall) : Option ReservationId :=
  match e.call, e.outcome with
  | .cancel k, .ok _ => some k
  | _, _ => none

end EndedCall

namespace BudgetWorld

def settlements (w : BudgetWorld) : List ReservationSettlement :=
  w.history.filterMap EndedCall.settlement?

def cancellations (w : BudgetWorld) : List ReservationId :=
  w.history.filterMap EndedCall.cancellation?

/-- The reservations settled and those cancelled, one entry for each call that did it. -/
def closed (w : BudgetWorld) : List ReservationId :=
  w.settlements.map ReservationSettlement.reservation ++ w.cancellations

/-- The reservations neither settled nor cancelled. -/
def openReservations (w : BudgetWorld) : List BudgetReservation :=
  (w.reservations.zipIdx.filter fun p => p.2 ∉ w.closed).map Prod.fst

end BudgetWorld

/-- An amount is within four caps. -/
def Tokens.Within (t : Tokens) (requests input output total : Nat) : Prop :=
  t.1 ≤ requests ∧ t.2.1 ≤ input ∧ t.2.2 ≤ output ∧ t.2.1 + t.2.2 ≤ total

lemma Tokens.Within.mono {s t : Tokens} {requests input output total : Nat}
    (h : Tokens.Within t requests input output total) (hle : s ≤ t) :
    Tokens.Within s requests input output total := by
  obtain ⟨h₁, h₂, h₃, h₄⟩ := h
  obtain ⟨hr, hi, ho⟩ := hle
  exact ⟨le_trans hr h₁, le_trans hi h₂, le_trans ho h₃, le_trans (add_le_add hi ho) h₄⟩

def BudgetLimits.Global (limits : BudgetLimits) (t : Tokens) : Prop :=
  t.Within limits.maxRequests limits.maxInputTokens limits.maxOutputTokens limits.maxTotalTokens

def BudgetLimits.PerTrial (limits : BudgetLimits) (t : Tokens) : Prop :=
  t.Within limits.maxRequestsPerTrial limits.maxInputTokensPerTrial
    limits.maxOutputTokensPerTrial limits.maxTotalTokensPerTrial

/-! ### The simulated ledger -/

namespace BudgetWorld

/-- The amounts of a reservation are still counted as reserved: it is not closed, or the call that
closes it waits for the ledger. -/
def Held (w : BudgetWorld) (k : ReservationId) (r : BudgetReservation) : Prop :=
  r.settled = false ∨ ∃ t call, w.waiting.get? t = some call ∧ call.reservation = some k

end BudgetWorld

/-- All amounts spoken for are within the caps. -/
def Capped (limits : BudgetLimits) (l : Ledger ReservationId Identifier Tokens) : Prop :=
  limits.Global (l.committed + l.reserved) ∧
    ∀ id account, l.accounts.get? id = some account →
      limits.PerTrial (account.committed + account.reserved)

/-- The world's counters are those of `l`, which holds the held reservations. -/
structure Tallies (w : BudgetWorld) (l : Ledger ReservationId Identifier Tokens) : Prop where
  balanced : l.Balanced
  nonNegative : l.NonNegative
  known : ∀ p ∈ l.active.values, p.1 ∈ l.accounts
  reserved_eq : w.ledger.reserved = l.reserved
  committed_eq : w.ledger.committed = l.committed
  accounts_eq : w.ledger.trials.mapVal TrialUsage.account = l.accounts
  active_iff : ∀ k p, l.active.get? k = some p ↔
    ∃ r, w.reservations[k]? = some r ∧ p = (r.trialId, r.claim) ∧ w.Held k r
  waiting_marked : ∀ t call, w.waiting.get? t = some call → call.NonNegative ∧
    ∃ k r, call.reservation = some k ∧ w.reservations[k]? = some r ∧ r.settled = true
  waiting_once : ∀ t t' call call' k, w.waiting.get? t = some call →
    w.waiting.get? t' = some call' → call.reservation = some k → call'.reservation = some k → t = t'
  closed_nodup : w.closed.Nodup
  closed_iff : ∀ k, k ∈ w.closed ↔ k < w.reservations.length ∧ k ∉ l.active
  committed_sum : l.committed = (w.settlements.map ReservationSettlement.usage).sum
  accounts_sum : ∀ id account, l.accounts.get? id = some account →
    account.committed =
      ((w.settlements.filter fun s => s.trialId = id).map ReservationSettlement.usage).sum
  settled_known : ∀ s ∈ w.settlements, s.trialId ∈ l.accounts
  violated_iff : w.ledger.violated = true ↔ ∃ s ∈ w.settlements, s.Overrun
  capped : w.ledger.violated = false → Capped w.ledger.limits l

variable {w : BudgetWorld} {l : Ledger ReservationId Identifier Tokens}

def emptyBudget : Ledger ReservationId Identifier Tokens where
  active := .empty
  accounts := .empty
  reserved := 0
  committed := 0

lemma tallies_initial (limits : BudgetLimits) :
    Tallies (BudgetWorld.initial limits) emptyBudget where
  balanced := ⟨rfl, fun _ _ h => by simp [emptyBudget] at h, rfl, rfl⟩
  nonNegative := ⟨fun _ _ _ h => by simp [emptyBudget] at h, le_refl _,
    fun _ _ h => by simp [emptyBudget] at h⟩
  known := fun _ h => by simp [emptyBudget, Dict.values, Dict.empty] at h
  reserved_eq := rfl
  committed_eq := rfl
  accounts_eq := rfl
  active_iff := fun _ _ => by simp [emptyBudget, BudgetWorld.initial]
  waiting_marked := fun _ _ h => by simp [BudgetWorld.initial] at h
  waiting_once := fun _ _ _ _ _ h => by simp [BudgetWorld.initial] at h
  closed_nodup := List.nodup_nil
  closed_iff := fun _ => by
    simp [BudgetWorld.initial, BudgetWorld.closed, BudgetWorld.settlements,
      BudgetWorld.cancellations]
  committed_sum := rfl
  accounts_sum := fun _ _ h => by simp [emptyBudget] at h
  settled_known := fun _ h => by simp [BudgetWorld.initial, BudgetWorld.settlements] at h
  violated_iff := by simp [BudgetWorld.initial, BudgetWorld.settlements]
  capped := by
    intro _
    refine ⟨?_, fun _ _ h => by simp [emptyBudget] at h⟩
    refine ⟨?_, ?_, ?_, ?_⟩ <;> simp [emptyBudget]

section History

variable {call : BudgetCall} {outcome : Except BudgetError PUnit}

lemma settlements_ends : (w.ends call outcome).settlements = w.settlements ++
    (EndedCall.settlement? ⟨call, call.reservation.bind fun k => w.reservations[k]?,
      outcome⟩).toList := by
  simp [BudgetWorld.settlements, BudgetWorld.ends, List.filterMap_append, List.filterMap_cons]
  cases EndedCall.settlement? ⟨call, call.reservation.bind fun k => w.reservations[k]?,
    outcome⟩ <;> rfl

lemma cancellations_ends : (w.ends call outcome).cancellations = w.cancellations ++
    (EndedCall.cancellation? ⟨call, call.reservation.bind fun k => w.reservations[k]?,
      outcome⟩).toList := by
  simp [BudgetWorld.cancellations, BudgetWorld.ends, List.filterMap_append, List.filterMap_cons]
  cases EndedCall.cancellation? ⟨call, call.reservation.bind fun k => w.reservations[k]?,
    outcome⟩ <;> rfl

/-- A call whose end closes no reservation. -/
def Closeless (call : BudgetCall) (outcome : Except BudgetError PUnit) : Prop :=
  ∀ on, EndedCall.settlement? ⟨call, on, outcome⟩ = none ∧
    EndedCall.cancellation? ⟨call, on, outcome⟩ = none

/-- Such an end leaves no trace in the accounts. -/
lemma Tallies.ends (h : Tallies w l) (hcall : Closeless call outcome) :
    Tallies (w.ends call outcome) l := by
  have hset : (w.ends call outcome).settlements = w.settlements := by
    rw [settlements_ends, (hcall _).1, Option.toList_none, List.append_nil]
  have hclosed : (w.ends call outcome).closed = w.closed := by
    rw [BudgetWorld.closed, BudgetWorld.closed, hset, cancellations_ends, (hcall _).2,
      Option.toList_none, List.append_nil]
  exact {
    balanced := h.balanced
    nonNegative := h.nonNegative
    known := h.known
    reserved_eq := h.reserved_eq
    committed_eq := h.committed_eq
    accounts_eq := h.accounts_eq
    active_iff := h.active_iff
    waiting_marked := h.waiting_marked
    waiting_once := h.waiting_once
    closed_nodup := hclosed ▸ h.closed_nodup
    closed_iff := fun k => hclosed ▸ h.closed_iff k
    committed_sum := hset ▸ h.committed_sum
    accounts_sum := hset ▸ h.accounts_sum
    settled_known := hset ▸ h.settled_known
    violated_iff := hset ▸ h.violated_iff
    capped := h.capped }

end History

/-! ### Sections under a reservation's lock -/

section Marking

variable {k : ReservationId} {r r' : BudgetReservation} {thread : ThreadId} {call : BudgetCall}

/-- Replacing a reservation object: the others are the same. -/
lemma getElem?_set_reservation (hk : w.reservations[k]? = some r) (k' : ReservationId) :
    (w.reservations.set k r')[k']? = if k' = k then some r' else w.reservations[k']? := by
  have hlt : k < w.reservations.length := (List.getElem?_eq_some_iff.mp hk).1
  rw [List.getElem?_set]
  by_cases h : k = k'
  · subst h
    simp [hlt]
  · rw [if_neg h, if_neg (Ne.symm h)]

lemma Tallies.dispatched (h : Tallies w l) (hk : w.reservations[k]? = some r) :
    Tallies { w with reservations := w.reservations.set k { r with dispatched := true } } l := by
  have hget := @getElem?_set_reservation w k r { r with dispatched := true } hk
  exact {
    balanced := h.balanced
    nonNegative := h.nonNegative
    known := h.known
    reserved_eq := h.reserved_eq
    committed_eq := h.committed_eq
    accounts_eq := h.accounts_eq
    active_iff := by
      intro k' p
      rw [h.active_iff k' p, hget k']
      by_cases hkk : k' = k
      · subst hkk
        simp [hk, BudgetWorld.Held, BudgetReservation.claim]
      · simp [hkk, BudgetWorld.Held]
    waiting_marked := by
      intro t call ht
      obtain ⟨hnonneg, k', r₀, hres, hr₀, hsettled⟩ := h.waiting_marked t call ht
      refine ⟨hnonneg, k', ?_⟩
      rw [hget k']
      by_cases hkk : k' = k
      · subst hkk
        rw [hk, Option.some.injEq] at hr₀
        subst hr₀
        exact ⟨_, hres, if_pos rfl, hsettled⟩
      · exact ⟨r₀, hres, by rw [if_neg hkk, hr₀], hsettled⟩
    waiting_once := h.waiting_once
    closed_nodup := h.closed_nodup
    closed_iff := by
      intro k'
      simp only [List.length_set]
      exact h.closed_iff k'
    committed_sum := h.committed_sum
    accounts_sum := h.accounts_sum
    settled_known := h.settled_known
    violated_iff := h.violated_iff
    capped := h.capped }

/-- Marking a reservation as settled keeps its amounts reserved: the call that did it waits. -/
lemma Tallies.marked (h : Tallies w l) (hk : w.reservations[k]? = some r)
    (hopen : r.settled = false) (hthread : thread ∉ w.waiting) (hcall : call.reservation = some k)
    (hnonneg : call.NonNegative) :
    Tallies { w with
      reservations := w.reservations.set k { r with settled := true }
      waiting := w.waiting.insert thread call } l := by
  have hget := @getElem?_set_reservation w k r { r with settled := true } hk
  -- the call is the only one that waits with this reservation
  have hfree : ∀ t call', w.waiting.get? t = some call' → call'.reservation ≠ some k := by
    intro t call' ht hres
    obtain ⟨-, k', r₀, hres', hr₀, hsettled⟩ := h.waiting_marked t call' ht
    rw [hres, Option.some.injEq] at hres'
    subst hres'
    rw [hk, Option.some.injEq] at hr₀
    subst hr₀
    rw [hopen] at hsettled
    cases hsettled
  exact {
    balanced := h.balanced
    nonNegative := h.nonNegative
    known := h.known
    reserved_eq := h.reserved_eq
    committed_eq := h.committed_eq
    accounts_eq := h.accounts_eq
    active_iff := by
      intro k' p
      rw [h.active_iff k' p]
      simp only [hget k']
      by_cases hkk : k' = k
      · subst hkk
        have hheld : ∃ t c, (w.waiting.insert thread call).get? t = some c ∧
            c.reservation = some k' := ⟨thread, call, Dict.get?_insert_self _ _ _, hcall⟩
        simp [hk, hopen, hheld, BudgetWorld.Held, BudgetReservation.claim]
      · have hwait : (∃ t c, (w.waiting.insert thread call).get? t = some c ∧
            c.reservation = some k') ↔ ∃ t c, w.waiting.get? t = some c ∧
            c.reservation = some k' := by
          constructor
          · rintro ⟨t, c, ht, hc⟩
            rw [Dict.get?_insert] at ht
            split_ifs at ht with heq
            · rw [Option.some.injEq] at ht
              rw [← ht, hcall, Option.some.injEq] at hc
              exact absurd hc.symm hkk
            · exact ⟨t, c, ht, hc⟩
          · rintro ⟨t, c, ht, hc⟩
            have hne : t ≠ thread := by
              rintro rfl
              exact hthread (Dict.mem_of_get? ht)
            exact ⟨t, c, by rw [Dict.get?_insert_of_ne _ _ hne, ht], hc⟩
        simp only [if_neg hkk, BudgetWorld.Held, hwait]
    waiting_marked := by
      intro t call' ht
      rw [Dict.get?_insert] at ht
      split_ifs at ht with heq
      · rw [Option.some.injEq] at ht
        subst ht
        exact ⟨hnonneg, k, _, hcall, by rw [hget k, if_pos rfl], rfl⟩
      · obtain ⟨hnonneg', k', r₀, hres, hr₀, hsettled⟩ := h.waiting_marked t call' ht
        have hkk : k' ≠ k := by
          rintro rfl
          exact hfree t call' ht hres
        exact ⟨hnonneg', k', r₀, hres, by rw [hget k', if_neg hkk, hr₀], hsettled⟩
    waiting_once := by
      intro t t' c c' k' ht ht' hc hc'
      rw [Dict.get?_insert] at ht ht'
      split_ifs at ht ht' with heq heq' heq'
      · rw [heq, heq']
      · rw [Option.some.injEq] at ht
        rw [← ht, hcall] at hc
        exact absurd (hc'.trans hc.symm) (hfree t' c' ht')
      · rw [Option.some.injEq] at ht'
        rw [← ht', hcall] at hc'
        exact absurd (hc.trans hc'.symm) (hfree t c ht)
      · exact h.waiting_once t t' c c' k' ht ht' hc hc'
    closed_nodup := h.closed_nodup
    closed_iff := by
      intro k'
      simp only [List.length_set]
      exact h.closed_iff k'
    committed_sum := h.committed_sum
    accounts_sum := h.accounts_sum
    settled_known := h.settled_known
    violated_iff := h.violated_iff
    capped := h.capped }

end Marking

/-! ### Reserving -/

section Reserving

variable {trialId : Identifier} {inputTokens outputTokens : Int} {r : BudgetReservation}
  {ledger' : BudgetLedger}

/-- The trial's account, opened if it is its first reservation. -/
lemma Tallies.exists_open (h : Tallies w l) (trialId : Identifier) :
    ∃ l₁ : Ledger ReservationId Identifier Tokens, l₁.Balanced ∧ l₁.NonNegative ∧
      l₁.active = l.active ∧ l₁.reserved = l.reserved ∧ l₁.committed = l.committed ∧
      l₁.accounts.get? trialId = some ((w.ledger.trials.get? trialId).getD {}).account ∧
      (∀ account, l₁.accounts.insert trialId account = l.accounts.insert trialId account) ∧
      ((w.ledger.trials.get? trialId).getD {}).account.committed =
        ((w.settlements.filter fun s => s.trialId = trialId).map
          ReservationSettlement.usage).sum := by
  cases htrial : w.ledger.trials.get? trialId with
  | some trial =>
    have haccount : l.accounts.get? trialId = some trial.account := by
      rw [← h.accounts_eq, Dict.get?_mapVal, htrial]
      rfl
    exact ⟨l, h.balanced, h.nonNegative, rfl, rfl, rfl, haccount, fun _ => rfl,
      h.accounts_sum trialId _ haccount⟩
  | none =>
    have hnew : trialId ∉ l.accounts := by
      rw [← h.accounts_eq, Dict.mem_mapVal, ← Dict.get?_eq_none_iff]
      exact htrial
    have hfree : ∀ p ∈ l.active.values, p.1 ≠ trialId := by
      rintro p hp rfl
      exact hnew (h.known p hp)
    have hunsettled : w.settlements.filter (fun s => s.trialId = trialId) = [] := by
      rw [List.filter_eq_nil_iff]
      intro s hs heq
      exact hnew (of_decide_eq_true heq ▸ h.settled_known s hs)
    refine ⟨{ l with accounts := l.accounts.insert trialId ⟨0, 0⟩ },
      Ledger.balanced_open h.balanced hnew hfree, ?_, rfl, rfl, rfl, Dict.get?_insert_self _ _ _,
      fun _ => Dict.insert_insert _ _ _ _, ?_⟩
    · refine ⟨h.nonNegative.claims, h.nonNegative.committed, ?_⟩
      intro owner account hget
      rw [Dict.get?_insert] at hget
      split_ifs at hget with heq
      · rw [Option.some.injEq] at hget
        rw [← hget]
      · exact h.nonNegative.accounts owner account hget
    · rw [hunsettled]
      rfl

/-- What an accepted reservation speaks for is within the caps. -/
lemma not_rejects_capped {b : BudgetLedger} {trial : TrialUsage}
    (h : ¬ b.Rejects trial inputTokens outputTokens) :
    b.limits.Global (b.committed + (b.reserved + (1, inputTokens, outputTokens))) ∧
      b.limits.PerTrial (trial.account.committed +
        (trial.account.reserved + (1, inputTokens, outputTokens))) := by
  simp only [BudgetLedger.Rejects, not_or, gt_iff_lt, not_lt] at h
  obtain ⟨h₁, h₂, h₃, h₄, h₅, h₆, h₇, h₈⟩ := h
  constructor
  · simp only [BudgetLimits.Global, Tokens.Within, BudgetLedger.committed, BudgetLedger.reserved,
      Prod.fst_add, Prod.snd_add]
    exact ⟨by linarith, by linarith, by linarith, by linarith⟩
  · simp only [BudgetLimits.PerTrial, Tokens.Within, TrialUsage.account, Prod.fst_add,
      Prod.snd_add]
    exact ⟨by linarith, by linarith, by linarith, by linarith⟩

lemma Tallies.reserved (h : Tallies w l)
    (hreserve : (BudgetLedger.reserve trialId inputTokens outputTokens).exec w.ledger =
      (.ok r, ledger')) :
    ∃ l', Tallies { w with ledger := ledger', reservations := w.reservations ++ [r] } l' := by
  obtain ⟨hinput, houtput, hfits, rfl, rfl⟩ := BudgetLedger.reserve_eq_ok.mp hreserve
  obtain ⟨l₁, hbalanced, hnonneg, hactive, hreserved, hcommitted, haccount, hinsert, hsum⟩ :=
    h.exists_open trialId
  obtain ⟨hglobal, hperTrial⟩ := not_rejects_capped hfits
  generalize htrial : (w.ledger.trials.get? trialId).getD {} = trial at *
  -- the new key is the number of reservations there are
  have hfresh : w.reservations.length ∉ l.active := by
    intro hmem
    obtain ⟨p, hp⟩ := Dict.mem_iff.mp hmem
    obtain ⟨r₀, hr₀, -⟩ := (h.active_iff _ p).mp hp
    exact absurd (List.getElem?_eq_some_iff.mp hr₀).1 (lt_irrefl _)
  have hstep : l₁.step (.reserve w.reservations.length trialId (1, inputTokens, outputTokens)) =
      some _ :=
    Ledger.reserve_eq_some.mpr ⟨hactive ▸ hfresh, trial.account, haccount, rfl⟩
  refine ⟨_, {
    balanced := Ledger.balanced_reserve hbalanced hstep
    nonNegative := Ledger.nonNegative_step hnonneg ?_ hstep
    known := ?_
    reserved_eq := ?_
    committed_eq := ?_
    accounts_eq := ?_
    active_iff := ?_
    waiting_marked := ?_
    waiting_once := h.waiting_once
    closed_nodup := h.closed_nodup
    closed_iff := ?_
    committed_sum := ?_
    accounts_sum := ?_
    settled_known := ?_
    violated_iff := h.violated_iff
    capped := ?_ }⟩
  · exact ⟨zero_le_one, le_of_lt hinput, le_of_lt houtput⟩
  · intro p hp
    rw [hinsert, Dict.mem_insert]
    rcases Dict.mem_values_insert hp with rfl | hp
    · exact Or.inl rfl
    · exact Or.inr (h.known p (hactive ▸ hp))
  · rw [hreserved, ← h.reserved_eq]
    rfl
  · rw [hcommitted, ← h.committed_eq]
    rfl
  · rw [hinsert, ← h.accounts_eq, Dict.mapVal_insert]
    rfl
  · intro k p
    rw [hactive, Dict.get?_insert]
    by_cases hk : k = w.reservations.length
    · subst hk
      rw [if_pos rfl, Option.some.injEq, List.getElem?_concat_length]
      constructor
      · rintro rfl
        exact ⟨_, rfl, rfl, Or.inl rfl⟩
      · rintro ⟨_, ⟨⟩, rfl, -⟩
        rfl
    · rw [if_neg hk, h.active_iff k p]
      have hget : (w.reservations ++ [⟨trialId, inputTokens, outputTokens, false, false⟩])[k]? =
          w.reservations[k]? := by
        rcases Nat.lt_or_gt_of_ne hk with hlt | hgt
        · rw [List.getElem?_append_left hlt]
        · rw [List.getElem?_eq_none (le_of_lt hgt), List.getElem?_eq_none]
          rw [List.length_append, List.length_singleton]
          exact hgt
      rw [hget]
      rfl
  · intro t call ht
    obtain ⟨hcall, k, r₀, hres, hr₀, hsettled⟩ := h.waiting_marked t call ht
    refine ⟨hcall, k, r₀, hres, ?_, hsettled⟩
    rw [List.getElem?_append_left (List.getElem?_eq_some_iff.mp hr₀).1]
    exact hr₀
  · intro k
    rw [hactive, Dict.mem_insert, List.length_append, List.length_singleton]
    refine (h.closed_iff k).trans ?_
    constructor
    · rintro ⟨hlt, hk⟩
      refine ⟨Nat.lt_succ_of_lt hlt, ?_⟩
      rintro (rfl | hmem)
      · exact absurd hlt (lt_irrefl _)
      · exact hk hmem
    · rintro ⟨hlt, hk⟩
      rw [not_or] at hk
      exact ⟨lt_of_le_of_ne (Nat.lt_succ_iff.mp hlt) hk.1, hk.2⟩
  · rw [hcommitted]
    exact h.committed_sum
  · intro id account hget
    rw [hinsert, Dict.get?_insert] at hget
    split_ifs at hget with heq
    · rw [Option.some.injEq] at hget
      rw [← hget, heq]
      exact hsum
    · exact h.accounts_sum id account hget
  · intro s hs
    rw [hinsert, Dict.mem_insert]
    exact Or.inr (h.settled_known s hs)
  · intro hviolated
    refine ⟨?_, ?_⟩
    · rw [hcommitted, hreserved, ← h.committed_eq, ← h.reserved_eq]
      exact hglobal
    · intro id account hget
      rw [hinsert, Dict.get?_insert] at hget
      split_ifs at hget with heq
      · rw [Option.some.injEq] at hget
        rw [← hget]
        exact hperTrial
      · exact (h.capped hviolated).2 id account hget

end Reserving

/-! ### Closing -/

section Closing

variable {thread : ThreadId} {call : BudgetCall} {k : ReservationId} {r : BudgetReservation}
  {ledger' : BudgetLedger} {outcome : Except BudgetError PUnit} {usage : Tokens}

/-- The reservation a waiting call closes is held, in a trial the ledger knows. -/
lemma Tallies.exists_waiting (h : Tallies w l) (hwait : w.waiting.get? thread = some call) :
    ∃ k r trial, call.reservation = some k ∧ w.reservations[k]? = some r ∧ r.settled = true ∧
      l.active.get? k = some (r.trialId, r.claim) ∧
      w.ledger.trials.get? r.trialId = some trial := by
  obtain ⟨-, k, r, hres, hr, hsettled⟩ := h.waiting_marked thread call hwait
  have hactive : l.active.get? k = some (r.trialId, r.claim) :=
    (h.active_iff k _).mpr ⟨r, hr, rfl, Or.inr ⟨thread, call, hwait, hres⟩⟩
  have hknown : r.trialId ∈ l.accounts := h.known _ (Dict.mem_values.mpr ⟨k, hactive⟩)
  rw [← h.accounts_eq, Dict.mem_mapVal] at hknown
  obtain ⟨trial, htrial⟩ := Dict.mem_iff.mp hknown
  exact ⟨k, r, trial, hres, hr, hsettled, hactive, htrial⟩

/-- The second section of a closing call takes the reservation out of the abstract ledger. -/
lemma Tallies.closing (h : Tallies w l) (hwait : w.waiting.get? thread = some call)
    (hres : call.reservation = some k) (hr : w.reservations[k]? = some r)
    (hsettled : r.settled = true) {trial trial' : TrialUsage}
    (htrial : w.ledger.trials.get? r.trialId = some trial)
    (hlimits : ledger'.limits = w.ledger.limits)
    (hreserved : ledger'.reserved = w.ledger.reserved - r.claim)
    (hcommitted : ledger'.committed = w.ledger.committed + usage)
    (htrials : ledger'.trials = w.ledger.trials.insert r.trialId trial')
    (haccount : trial'.account =
      ⟨trial.account.reserved - r.claim, trial.account.committed + usage⟩)
    (husage : 0 ≤ usage) {settled : List ReservationSettlement} {cancelled : List ReservationId}
    (hsettlement : (EndedCall.settlement? ⟨call, some r, outcome⟩).toList = settled)
    (hcancellation : (EndedCall.cancellation? ⟨call, some r, outcome⟩).toList = cancelled)
    (hone : settled.map ReservationSettlement.reservation ++ cancelled = [k])
    (hsum : (settled.map ReservationSettlement.usage).sum = usage)
    (howner : ∀ s ∈ settled, s.trialId = r.trialId)
    (hviolated : ledger'.violated = true ↔ w.ledger.violated = true ∨ ∃ s ∈ settled, s.Overrun)
    (hfits : ledger'.violated = false → usage ≤ r.claim) :
    ∃ l', Tallies ({ w with
      ledger := ledger', waiting := w.waiting.erase thread }.ends call outcome) l' := by
  have hactive : l.active.get? k = some (r.trialId, r.claim) :=
    (h.active_iff k _).mpr ⟨r, hr, rfl, Or.inr ⟨thread, call, hwait, hres⟩⟩
  have hget : l.accounts.get? r.trialId = some trial.account := by
    rw [← h.accounts_eq, Dict.get?_mapVal, htrial]
    rfl
  have hclose : l.close k usage = some _ :=
    Ledger.close_eq_some.mpr ⟨r.trialId, r.claim, trial.account, hactive, hget, rfl⟩
  set w' := { w with ledger := ledger', waiting := w.waiting.erase thread }.ends call outcome
    with hw'
  have hsettlements : w'.settlements = w.settlements ++ settled := by
    rw [hw', settlements_ends]
    simp only [hres, Option.bind_some, hr, hsettlement]
    rfl
  have hcancellations : w'.cancellations = w.cancellations ++ cancelled := by
    rw [hw', cancellations_ends]
    simp only [hres, Option.bind_some, hr, hcancellation]
    rfl
  have hclosed : w'.closed.Perm (w.closed ++ [k]) := by
    rw [BudgetWorld.closed, hsettlements, hcancellations, List.map_append, BudgetWorld.closed,
      ← hone, List.append_assoc, List.append_assoc]
    refine List.Perm.append_left _ ?_
    rw [← List.append_assoc, ← List.append_assoc]
    exact List.Perm.append_right _ List.perm_append_comm
  have hkLive : k ∈ l.active := Dict.mem_of_get? hactive
  refine ⟨_, {
    balanced := Ledger.balanced_close h.balanced hclose
    nonNegative := Ledger.nonNegative_close h.nonNegative husage hclose
    known := ?_
    reserved_eq := ?_
    committed_eq := ?_
    accounts_eq := ?_
    active_iff := ?_
    waiting_marked := ?_
    waiting_once := ?_
    closed_nodup := ?_
    closed_iff := ?_
    committed_sum := ?_
    accounts_sum := ?_
    settled_known := ?_
    violated_iff := ?_
    capped := ?_ }⟩
  · intro p hp
    obtain ⟨k', hk'⟩ := Dict.mem_values.mp hp
    rw [Dict.get?_erase] at hk'
    split_ifs at hk'
    exact Dict.mem_insert.mpr (Or.inr (h.known p (Dict.mem_values.mpr ⟨k', hk'⟩)))
  · exact hreserved.trans (by rw [h.reserved_eq])
  · exact hcommitted.trans (by rw [h.committed_eq])
  · rw [← haccount, ← h.accounts_eq, ← Dict.mapVal_insert, ← htrials]
    rfl
  · intro k' p
    rw [Dict.get?_erase]
    by_cases hkk : k' = k
    · subst hkk
      rw [if_pos rfl]
      refine iff_of_false (by simp) ?_
      rintro ⟨r', hr', rfl, hheld⟩
      have hr'' : r' = r := Option.some.inj (hr'.symm.trans hr)
      subst hr''
      rcases hheld with hopen | ⟨t, c, ht, hc⟩
      · rw [hsettled] at hopen
        cases hopen
      · change (w.waiting.erase thread).get? t = some c at ht
        rw [Dict.get?_erase] at ht
        split_ifs at ht with heq
        exact heq (h.waiting_once t thread c call k' ht hwait hc hres)
    · rw [if_neg hkk, h.active_iff k' p]
      have hwaits : (∃ t c, (w.waiting.erase thread).get? t = some c ∧
          c.reservation = some k') ↔ ∃ t c, w.waiting.get? t = some c ∧
          c.reservation = some k' := by
        constructor
        · rintro ⟨t, c, ht, hc⟩
          rw [Dict.get?_erase] at ht
          split_ifs at ht
          exact ⟨t, c, ht, hc⟩
        · rintro ⟨t, c, ht, hc⟩
          have hne : t ≠ thread := by
            rintro rfl
            rw [hwait, Option.some.injEq] at ht
            rw [← ht, hres, Option.some.injEq] at hc
            exact hkk hc.symm
          exact ⟨t, c, by rw [Dict.get?_erase_of_ne _ hne, ht], hc⟩
      constructor
      · rintro ⟨r', hr', rfl, hheld⟩
        exact ⟨r', hr', rfl, hheld.imp_right hwaits.mpr⟩
      · rintro ⟨r', hr', rfl, hheld⟩
        exact ⟨r', hr', rfl, hheld.imp_right hwaits.mp⟩
  · intro t c ht
    change (w.waiting.erase thread).get? t = some c at ht
    rw [Dict.get?_erase] at ht
    split_ifs at ht
    exact h.waiting_marked t c ht
  · intro t t' c c' k' ht ht' hc hc'
    change (w.waiting.erase thread).get? t = some c at ht
    change (w.waiting.erase thread).get? t' = some c' at ht'
    rw [Dict.get?_erase] at ht ht'
    split_ifs at ht ht'
    exact h.waiting_once t t' c c' k' ht ht' hc hc'
  · rw [hclosed.nodup_iff, List.nodup_append]
    refine ⟨h.closed_nodup, List.nodup_singleton k, ?_⟩
    rintro k' hk' _ hkk rfl
    rw [List.mem_singleton] at hkk
    subst hkk
    exact ((h.closed_iff k').mp hk').2 hkLive
  · intro k'
    rw [hclosed.mem_iff, List.mem_append, List.mem_singleton, h.closed_iff k', Dict.mem_erase]
    have hlt : k < w.reservations.length := (List.getElem?_eq_some_iff.mp hr).1
    constructor
    · rintro (⟨hlt', hk'⟩ | rfl)
      · exact ⟨hlt', fun hmem => hk' hmem.2⟩
      · exact ⟨hlt, fun hmem => hmem.1 rfl⟩
    · rintro ⟨hlt', hk'⟩
      by_cases hkk : k' = k
      · exact Or.inr hkk
      · exact Or.inl ⟨hlt', fun hmem => hk' ⟨hkk, hmem⟩⟩
  · rw [hsettlements, List.map_append, List.sum_append, hsum, h.committed_sum]
  · intro id account hget'
    rw [hsettlements, List.filter_append, List.map_append, List.sum_append]
    rw [Dict.get?_insert] at hget'
    split_ifs at hget' with heq
    · rw [Option.some.injEq] at hget'
      subst hget' heq
      have hall : settled.filter (fun s => s.trialId = r.trialId) = settled := by
        rw [List.filter_eq_self]
        intro s hs
        exact decide_eq_true (howner s hs)
      rw [hall, hsum, ← h.accounts_sum _ _ hget]
    · have hnone : settled.filter (fun s => s.trialId = id) = [] := by
        rw [List.filter_eq_nil_iff]
        intro s hs hid
        exact heq ((of_decide_eq_true hid).symm.trans (howner s hs))
      rw [hnone, List.map_nil, List.sum_nil, add_zero]
      exact h.accounts_sum id account hget'
  · intro s hs
    rw [hsettlements, List.mem_append] at hs
    rcases hs with hs | hs
    · exact Dict.mem_insert.mpr (Or.inr (h.settled_known s hs))
    · exact Dict.mem_insert.mpr (Or.inl (howner s hs))
  · rw [hsettlements]
    refine hviolated.trans ?_
    rw [h.violated_iff]
    constructor
    · rintro (⟨s, hs, hover⟩ | ⟨s, hs, hover⟩)
      · exact ⟨s, List.mem_append_left _ hs, hover⟩
      · exact ⟨s, List.mem_append_right _ hs, hover⟩
    · rintro ⟨s, hs, hover⟩
      rcases List.mem_append.mp hs with hs | hs
      · exact Or.inl ⟨s, hs, hover⟩
      · exact Or.inr ⟨s, hs, hover⟩
  · intro hflag
    change ledger'.violated = false at hflag
    have hflag' : w.ledger.violated = false := by
      by_contra hne
      have hset := hviolated.mpr (Or.inl (Bool.eq_true_of_not_eq_false hne))
      rw [hflag] at hset
      cases hset
    obtain ⟨hglobal, hperTrial⟩ := h.capped hflag'
    obtain ⟨hle, hleTrial⟩ := Ledger.close_le hclose (by
      intro owner claim hget'
      rw [hactive, Option.some.injEq, Prod.mk.injEq] at hget'
      rw [← hget'.2]
      exact hfits hflag)
    change Capped ledger'.limits _
    rw [hlimits]
    refine ⟨hglobal.mono hle, ?_⟩
    intro id account hget'
    obtain ⟨before, hbefore, hle'⟩ := hleTrial id account hget'
    exact (hperTrial id before hbefore).mono hle'

variable {trial : TrialUsage}

/-- Without an earlier overrun, a usage within its claim stays within the caps. -/
lemma Tallies.not_overruns (h : Tallies w l) {inputTokens outputTokens : Int}
    (hactive : l.active.get? k = some (r.trialId, r.claim))
    (htrial : w.ledger.trials.get? r.trialId = some trial) (hflag : w.ledger.violated = false)
    (hinput : 0 ≤ inputTokens) (houtput : 0 ≤ outputTokens)
    (hle : inputTokens ≤ r.inputTokens) (hle' : outputTokens ≤ r.outputTokens) :
    ¬ (w.ledger.settled r trial inputTokens outputTokens).Overruns
      (BudgetLedger.settledTrial r trial inputTokens outputTokens) r inputTokens
      outputTokens := by
  have hget : l.accounts.get? r.trialId = some trial.account := by
    rw [← h.accounts_eq, Dict.get?_mapVal, htrial]
    rfl
  have hclose : l.close k (1, inputTokens, outputTokens) = some _ :=
    Ledger.close_eq_some.mpr ⟨r.trialId, r.claim, trial.account, hactive, hget, rfl⟩
  obtain ⟨hnonneg, hnonnegTrial⟩ := (Ledger.balanced_close h.balanced hclose).reserved_nonneg
    (Ledger.nonNegative_close h.nonNegative ⟨zero_le_one, hinput, houtput⟩ hclose)
  obtain ⟨hle₁, hle₂⟩ := Ledger.close_le hclose (by
    intro owner claim hget'
    rw [hactive, Option.some.injEq, Prod.mk.injEq] at hget'
    rw [← hget'.2]
    exact ⟨le_refl _, hle, hle'⟩)
  obtain ⟨hglobal, hperTrial⟩ := h.capped hflag
  have hcommitted := hglobal.mono (le_trans (le_add_of_nonneg_right hnonneg) hle₁)
  obtain ⟨before, hbefore, hleTrial⟩ := hle₂ r.trialId _ (Dict.get?_insert_self _ _ _)
  have hcommittedTrial := (hperTrial _ before hbefore).mono
    (le_trans (le_add_of_nonneg_right (hnonnegTrial _ _ (Dict.get?_insert_self _ _ _))) hleTrial)
  simp only [← h.committed_eq] at hcommitted
  obtain ⟨-, h₁, h₂, h₃⟩ := hcommitted
  obtain ⟨-, h₄, h₅, h₆⟩ := hcommittedTrial
  simp only [BudgetLedger.Overruns, not_or, gt_iff_lt, not_lt]
  exact ⟨hle, hle', h₁, h₂, h₃, h₄, h₅, h₆⟩

lemma flagOverrun_exec (b : BudgetLedger) (trial : TrialUsage) (r : BudgetReservation)
    (inputTokens outputTokens : Int) :
    (BudgetLedger.flagOverrun trial r inputTokens outputTokens).exec b =
      if b.Overruns trial r inputTokens outputTokens then
        (.error .overrun, { b with violated := true })
      else (.ok ⟨⟩, b) := rfl

lemma Tallies.settled (h : Tallies w l) (hwait : w.waiting.get? thread = some call)
    (hres : call.reservation = some k) (hr : w.reservations[k]? = some r)
    (hsettled : r.settled = true) {inputTokens outputTokens : Int}
    (htrial : w.ledger.trials.get? r.trialId = some trial)
    (hinput : 0 ≤ inputTokens) (houtput : 0 ≤ outputTokens)
    (hsettlement : ∀ outcome, EndedCall.settlement? ⟨call, some r, outcome⟩ =
      if EndedCall.settled ⟨call, some r, outcome⟩ then
        some ⟨k, r.trialId, r.claim, (1, inputTokens, outputTokens)⟩ else none)
    (hcancellation : ∀ outcome, EndedCall.cancellation? ⟨call, some r, outcome⟩ = none) :
    ∃ l', Tallies ({ w with
      ledger := ((BudgetLedger.settle r inputTokens outputTokens).exec w.ledger).2
      waiting := w.waiting.erase thread }.ends call
        ((BudgetLedger.settle r inputTokens outputTokens).exec w.ledger).1) l' := by
  have hactive : l.active.get? k = some (r.trialId, r.claim) :=
    (h.active_iff k _).mpr ⟨r, hr, rfl, Or.inr ⟨thread, call, hwait, hres⟩⟩
  rw [BudgetLedger.exec_settle htrial hinput houtput, flagOverrun_exec]
  have husage : (0 : Tokens) ≤ (1, inputTokens, outputTokens) := ⟨zero_le_one, hinput, houtput⟩
  by_cases hover : (w.ledger.settled r trial inputTokens outputTokens).Overruns
      (BudgetLedger.settledTrial r trial inputTokens outputTokens) r inputTokens outputTokens
  · rw [if_pos hover]
    refine h.closing hwait hres hr hsettled htrial rfl rfl rfl rfl rfl husage
      (congrArg Option.toList ((hsettlement _).trans (if_pos rfl)))
      (congrArg Option.toList (hcancellation _)) rfl (by simp) (by simp) ?_
      (fun hflag => by cases hflag)
    refine iff_of_true rfl ?_
    by_contra hnone
    rw [not_or] at hnone
    obtain ⟨hflag, hkept⟩ := hnone
    have hwithin : ¬ ReservationSettlement.Overrun
        ⟨k, r.trialId, r.claim, (1, inputTokens, outputTokens)⟩ := by
      intro hs
      exact hkept ⟨_, List.mem_singleton.mpr rfl, hs⟩
    rw [ReservationSettlement.Overrun, not_or, not_lt, not_lt] at hwithin
    exact h.not_overruns hactive htrial (Bool.eq_false_of_not_eq_true hflag) hinput houtput
      hwithin.1 hwithin.2 hover
  · rw [if_neg hover]
    simp only [BudgetLedger.Overruns, not_or, gt_iff_lt, not_lt] at hover
    refine h.closing hwait hres hr hsettled htrial rfl rfl rfl rfl rfl husage
      (congrArg Option.toList ((hsettlement _).trans (if_pos rfl)))
      (congrArg Option.toList (hcancellation _)) rfl (by simp) (by simp) ?_
      (fun _ => ⟨le_refl _, hover.1, hover.2.1⟩)
    refine (or_iff_left ?_).symm
    rintro ⟨s, hs, hsover⟩
    rw [Option.mem_toList, Option.some.injEq] at hs
    subst hs
    rcases hsover with hsover | hsover
    · exact absurd hsover (not_lt.mpr hover.1)
    · exact absurd hsover (not_lt.mpr hover.2.1)

lemma Tallies.cancelled (h : Tallies w l) (hwait : w.waiting.get? thread = some (.cancel k))
    (hr : w.reservations[k]? = some r) (hsettled : r.settled = true)
    (htrial : w.ledger.trials.get? r.trialId = some trial) :
    ∃ l', Tallies ({ w with
      ledger := ((BudgetLedger.cancel r).exec w.ledger).2
      waiting := w.waiting.erase thread }.ends (.cancel k)
        ((BudgetLedger.cancel r).exec w.ledger).1) l' := by
  have hactive : l.active.get? k = some (r.trialId, r.claim) :=
    (h.active_iff k _).mpr ⟨r, hr, rfl, Or.inr ⟨thread, _, hwait, rfl⟩⟩
  have hclaim : 0 ≤ r.claim := h.nonNegative.claims k _ _ hactive
  rw [BudgetLedger.cancel, BudgetLedger.exec_removeReserved htrial]
  have hnone : (EndedCall.settlement? ⟨.cancel k, some r, .ok ⟨⟩⟩).toList = [] := rfl
  have hkept : ∀ c : Tokens, c + 0 = c := add_zero
  refine h.closing hwait rfl hr hsettled htrial rfl rfl (hkept _).symm rfl ?_ (le_refl 0) hnone rfl
    rfl rfl (by simp) (by simp [BudgetLedger.without]) (fun _ => hclaim)
  simp only [hkept]
  rfl

end Closing

/-! ### Runs -/

lemma closeless_error {call : BudgetCall} {e : BudgetError} (he : e ≠ .overrun) :
    Closeless call (.error e) := by
  intro on
  cases call <;> cases on <;> simp [EndedCall.settlement?, EndedCall.cancellation?,
    EndedCall.settled, he]

lemma mark_error {r' : BudgetReservation} {c : Prop} [Decidable c] {e e' : BudgetError}
    (h : (raiseIf c e >>= fun _ => pure r') = Except.error e') : e' = e := by
  by_cases hc : c
  · rw [raiseIf, if_pos hc] at h
    cases h
    rfl
  · rw [raiseIf, if_neg hc] at h
    cases h

section Steps

variable {w' : BudgetWorld} {thread : ThreadId} {call : BudgetCall} {k : ReservationId}

/-- A section under a reservation's lock keeps the counters, whatever its outcome. -/
lemma Tallies.mark (h : Tallies w l) {goesOn : Bool}
    {check : BudgetReservation → Except BudgetError BudgetReservation}
    (hstep : w.mark thread call k check goesOn = some w')
    (hraise : ∀ e r, check r = .error e → e ≠ .overrun)
    (hok : ∀ r r', w.reservations[k]? = some r → check r = .ok r' →
      Tallies (if goesOn then { w with
          reservations := w.reservations.set k r', waiting := w.waiting.insert thread call }
        else { w with reservations := w.reservations.set k r' }.ends call (.ok ⟨⟩)) l) :
    Tallies w' l := by
  unfold BudgetWorld.mark at hstep
  split at hstep
  · cases hstep
  next r hr =>
    split at hstep
    next e he =>
      cases hstep
      exact h.ends (closeless_error (hraise e r he))
    next r' hr' =>
      have hkept := hok r r' hr hr'
      cases goesOn with
      | true =>
        cases hstep
        exact hkept
      | false =>
        cases hstep
        exact hkept

lemma Tallies.markDispatched (h : Tallies w l)
    (hstep : w.mark thread (.markDispatched k) k BudgetReservation.markDispatched false = some w') :
    Tallies w' l := by
  refine h.mark hstep ?_ ?_
  · intro e r he
    rw [mark_error he]
    decide
  · intro r r' hr hr'
    simp only [BudgetReservation.markDispatched, raiseIf_bind_eq_ok, pure_eq_ok] at hr'
    obtain ⟨-, rfl⟩ := hr'
    exact (h.dispatched hr).ends fun on => by cases on <;> exact ⟨rfl, rfl⟩

lemma Tallies.markSettled (h : Tallies w l) (hthread : thread ∉ w.waiting)
    (hcall : call.reservation = some k) (hnonneg : call.NonNegative)
    (hstep : w.mark thread call k BudgetReservation.markSettled true = some w') :
    Tallies w' l := by
  refine h.mark hstep ?_ ?_
  · intro e r he
    rw [mark_error he]
    decide
  · intro r r' hr hr'
    simp only [BudgetReservation.markSettled, raiseIf_bind_eq_ok, pure_eq_ok, not_or,
      Bool.not_eq_true] at hr'
    obtain ⟨⟨hopen, -⟩, rfl⟩ := hr'
    exact h.marked hr hopen hthread hcall hnonneg

lemma Tallies.markCancelled (h : Tallies w l) (hthread : thread ∉ w.waiting)
    (hstep : w.mark thread (.cancel k) k BudgetReservation.markCancelled true = some w') :
    Tallies w' l := by
  refine h.mark hstep ?_ ?_
  · intro e r he
    rw [mark_error he]
    decide
  · intro r r' hr hr'
    simp only [BudgetReservation.markCancelled, raiseIf_bind_eq_ok, pure_eq_ok, not_or,
      Bool.not_eq_true] at hr'
    obtain ⟨⟨hopen, -⟩, rfl⟩ := hr'
    exact h.marked hr hopen hthread rfl trivial

lemma Tallies.enter (h : Tallies w l) (hthread : thread ∉ w.waiting) (hcall : call.NonNegative)
    (hstep : w.enter thread call = some w') : ∃ l', Tallies w' l' := by
  cases call with
  | reserve trialId inputTokens outputTokens =>
    obtain ⟨x, ledger', hexec⟩ : ∃ x ledger',
        (BudgetLedger.reserve trialId inputTokens outputTokens).exec w.ledger = (x, ledger') :=
      ⟨_, _, rfl⟩
    simp only [BudgetWorld.enter, hexec] at hstep
    cases x with
    | error e =>
      cases hstep
      rw [BudgetLedger.reserve_eq_error hexec]
      exact ⟨l, h.ends fun on => by cases on <;> exact ⟨rfl, rfl⟩⟩
    | ok r =>
      cases hstep
      obtain ⟨l', hl'⟩ := h.reserved hexec
      exact ⟨l', hl'.ends fun on => by cases on <;> exact ⟨rfl, rfl⟩⟩
  | markDispatched k => exact ⟨l, h.markDispatched hstep⟩
  | settle k inputTokens outputTokens => exact ⟨l, h.markSettled hthread rfl hcall hstep⟩
  | settleUnknown k => exact ⟨l, h.markSettled hthread rfl hcall hstep⟩
  | cancel k => exact ⟨l, h.markCancelled hthread hstep⟩

lemma Tallies.resume (h : Tallies w l) (hwait : w.waiting.get? thread = some call)
    (hstep : (w.ledgerSection call).map (fun p =>
        { w with ledger := (p.exec w.ledger).2, waiting := w.waiting.erase thread }.ends call
          (p.exec w.ledger).1) = some w') : ∃ l', Tallies w' l' := by
  obtain ⟨k, r, trial, hres, hr, hsettled, hactive, htrial⟩ := h.exists_waiting hwait
  have hnonneg := (h.waiting_marked thread call hwait).1
  have hclaim := h.nonNegative.claims k _ _ hactive
  cases call with
  | reserve trialId inputTokens outputTokens => cases hres
  | markDispatched k' => cases hstep
  | settle k' inputTokens outputTokens =>
    cases hres
    simp only [BudgetWorld.ledgerSection, hr, Option.map_some, Option.some.injEq] at hstep
    subst hstep
    exact h.settled hwait rfl hr hsettled htrial hnonneg.1 hnonneg.2 (fun _ => rfl) (fun _ => rfl)
  | settleUnknown k' =>
    cases hres
    simp only [BudgetWorld.ledgerSection, hr, Option.map_some, Option.some.injEq] at hstep
    subst hstep
    exact h.settled hwait rfl hr hsettled htrial hclaim.2.1 hclaim.2.2 (fun _ => rfl) (fun _ => rfl)
  | cancel k' =>
    cases hres
    simp only [BudgetWorld.ledgerSection, hr, Option.map_some, Option.some.injEq] at hstep
    subst hstep
    exact h.cancelled hwait hr hsettled htrial

/-- Every section of every thread keeps the counters in step with the abstract ledger. -/
theorem tallies_step {a : BudgetAction} (h : Tallies w l) (ha : a.NonNegative)
    (hstep : w.step a = some w') : ∃ l', Tallies w' l' := by
  cases a with
  | enter thread call =>
    simp only [BudgetWorld.step] at hstep
    split_ifs at hstep with hthread
    exact h.enter hthread ha hstep
  | resume thread =>
    simp only [BudgetWorld.step] at hstep
    split at hstep
    · cases hstep
    next call hwait => exact h.resume hwait hstep

theorem tallies_run {as : List BudgetAction} (h : Tallies w l) (has : ∀ a ∈ as, a.NonNegative)
    (hrun : w.run as = some w') : ∃ l', Tallies w' l' := by
  induction as generalizing w l with
  | nil =>
    cases hrun
    exact ⟨l, h⟩
  | cons a as ih =>
    obtain ⟨m, hstep, hrest⟩ := Option.bind_eq_some_iff.mp hrun
    rw [List.forall_mem_cons] at has
    obtain ⟨l', hl'⟩ := tallies_step h has.1 hstep
    exact ih hl' has.2 hrest

end Steps

/-! ### The counters of an idle ledger -/

/-- The counters are the sums they stand for, each reservation is closed at most once, and the flag
tells whether the caps can have been crossed. -/
structure Accounted (w : BudgetWorld) : Prop where
  closed_once : w.closed.Nodup
  settled_iff : ∀ k r, w.reservations[k]? = some r → (r.settled = true ↔ k ∈ w.closed)
  reserved_eq : w.ledger.reserved = (w.openReservations.map BudgetReservation.claim).sum
  trialReserved_eq : ∀ id trial, w.ledger.trials.get? id = some trial → trial.account.reserved =
    ((w.openReservations.filter fun r => r.trialId = id).map BudgetReservation.claim).sum
  committed_eq : w.ledger.committed = (w.settlements.map ReservationSettlement.usage).sum
  trialCommitted_eq : ∀ id trial, w.ledger.trials.get? id = some trial → trial.account.committed =
    ((w.settlements.filter fun s => s.trialId = id).map ReservationSettlement.usage).sum
  reserved_trials : w.ledger.reserved = w.ledger.trials.sum fun trial => trial.account.reserved
  committed_trials : w.ledger.committed = w.ledger.trials.sum fun trial => trial.account.committed
  nonneg : 0 ≤ w.ledger.reserved ∧ 0 ≤ w.ledger.committed
  trials_nonneg : ∀ id trial, w.ledger.trials.get? id = some trial →
    0 ≤ trial.account.reserved ∧ 0 ≤ trial.account.committed
  violated_iff : w.ledger.violated = true ↔ ∃ s ∈ w.settlements, s.Overrun
  capped : w.ledger.violated = false →
    w.ledger.limits.Global (w.ledger.committed + w.ledger.reserved) ∧
      ∀ id trial, w.ledger.trials.get? id = some trial →
        w.ledger.limits.PerTrial (trial.account.committed + trial.account.reserved)

section Idle

variable {k : ReservationId} {r : BudgetReservation}

/-- With no call in progress the abstract ledger holds exactly the open reservations. -/
lemma Tallies.active_of_idle (h : Tallies w l) (hidle : w.waiting.isEmpty = true) {p} :
    l.active.get? k = some p ↔
      ∃ r, w.reservations[k]? = some r ∧ p = (r.trialId, r.claim) ∧ r.settled = false := by
  have hnone : ¬ ∃ t call, w.waiting.get? t = some call ∧ call.reservation = some k := by
    rintro ⟨t, call, ht, -⟩
    rw [Dict.isEmpty_iff.mp hidle t] at ht
    cases ht
  rw [h.active_iff k p]
  simp only [BudgetWorld.Held, hnone, or_false]

lemma Tallies.settled_iff (h : Tallies w l) (hidle : w.waiting.isEmpty = true)
    (hr : w.reservations[k]? = some r) : r.settled = true ↔ k ∈ w.closed := by
  have hlt : k < w.reservations.length := (List.getElem?_eq_some_iff.mp hr).1
  rw [h.closed_iff k, and_iff_right hlt, ← Dict.get?_eq_none_iff, Option.eq_none_iff_forall_ne_some]
  constructor
  · intro hsettled p hp
    obtain ⟨r', hr', -, hopen⟩ := (h.active_of_idle hidle).mp hp
    rw [hr, Option.some.injEq] at hr'
    rw [← hr', hsettled] at hopen
    cases hopen
  · intro hnone
    by_contra hopen
    exact hnone _ ((h.active_of_idle hidle).mpr ⟨r, hr, rfl, Bool.eq_false_of_not_eq_true hopen⟩)

/-- The entries of the abstract ledger are the open reservations, in some order. -/
lemma Tallies.active_perm (h : Tallies w l) (hidle : w.waiting.isEmpty = true) :
    l.active.values.Perm (w.openReservations.map fun r => (r.trialId, r.claim)) := by
  set numbered := (w.reservations.zipIdx.filter fun p => p.2 ∉ w.closed).map
    fun p => (p.2, (p.1.trialId, p.1.claim)) with hnumbered
  have hkeys : (numbered.map Prod.fst).Nodup := by
    have hindices : (w.reservations.zipIdx.map Prod.snd).Nodup := by
      rw [List.zipIdx_map_snd]
      exact List.nodup_range'
    rw [hnumbered, List.map_map]
    exact hindices.sublist (List.filter_sublist.map Prod.snd)
  have hperm : l.active.entries.Perm numbered := by
    rw [List.perm_ext_iff_of_nodup l.active.nodup.of_map hkeys.of_map]
    rintro ⟨k, p⟩
    rw [← Dict.get?_eq_some_iff, h.active_of_idle hidle, hnumbered]
    simp only [List.mem_map, List.mem_filter, decide_eq_true_eq, Prod.mk.injEq]
    constructor
    · rintro ⟨r, hr, rfl, hopen⟩
      refine ⟨(r, k), ⟨List.mem_zipIdx_iff_getElem?.mpr hr, ?_⟩, rfl, rfl⟩
      rw [← h.settled_iff hidle hr, hopen]
      decide
    · rintro ⟨⟨r, k'⟩, ⟨hmem, hopen⟩, rfl, rfl⟩
      have hr := List.mem_zipIdx_iff_getElem?.mp hmem
      refine ⟨r, hr, rfl, ?_⟩
      rw [← h.settled_iff hidle hr] at hopen
      exact Bool.eq_false_of_not_eq_true hopen
  have hvalues := hperm.map Prod.snd
  rw [hnumbered, List.map_map] at hvalues
  rw [BudgetWorld.openReservations, List.map_map]
  exact hvalues

lemma Tallies.account (h : Tallies w l) {id : Identifier} {trial : TrialUsage}
    (htrial : w.ledger.trials.get? id = some trial) : l.accounts.get? id = some trial.account := by
  rw [← h.accounts_eq, Dict.get?_mapVal, htrial]
  rfl

/-- In a world with no call in progress the counters are accounted for. -/
lemma Tallies.accounted (h : Tallies w l) (hidle : w.waiting.isEmpty = true) : Accounted w := by
  obtain ⟨hreserved, hreservedTrial⟩ := h.balanced.reserved_nonneg h.nonNegative
  have hsum : ∀ f : Identifier × Tokens → Tokens, l.active.sum f =
      ((w.openReservations.map fun r => (r.trialId, r.claim)).map f).sum := by
    intro f
    exact ((h.active_perm hidle).map f).sum_eq
  have htrials : ∀ f : Account Tokens → Tokens,
      l.accounts.sum f = w.ledger.trials.sum fun trial => f trial.account := by
    intro f
    rw [← h.accounts_eq, Dict.sum, Dict.sum, Dict.values_mapVal, List.map_map]
    rfl
  exact {
    closed_once := h.closed_nodup
    settled_iff := fun k r hr => h.settled_iff hidle hr
    reserved_eq := by
      rw [h.reserved_eq, h.balanced.reserved_eq, hsum, List.map_map]
      rfl
    trialReserved_eq := by
      intro id trial htrial
      rw [h.balanced.account_eq id _ (h.account htrial), hsum, List.map_map]
      induction w.openReservations with
      | nil => rfl
      | cons r rs ih =>
        by_cases hr : r.trialId = id
        · simp [hr, ih]
        · simp [hr, ih]
    committed_eq := h.committed_eq.trans h.committed_sum
    trialCommitted_eq := fun id trial htrial => h.accounts_sum id _ (h.account htrial)
    reserved_trials := by
      rw [h.reserved_eq, h.balanced.reserved_sum, htrials]
    committed_trials := by
      rw [h.committed_eq, h.balanced.committed_sum, htrials]
    nonneg := by
      rw [h.reserved_eq, h.committed_eq]
      exact ⟨hreserved, h.nonNegative.committed⟩
    trials_nonneg := fun id trial htrial =>
      ⟨hreservedTrial id _ (h.account htrial), h.nonNegative.accounts id _ (h.account htrial)⟩
    violated_iff := h.violated_iff
    capped := by
      intro hflag
      obtain ⟨hglobal, hperTrial⟩ := h.capped hflag
      rw [h.committed_eq, h.reserved_eq]
      exact ⟨hglobal, fun id trial htrial => hperTrial id _ (h.account htrial)⟩ }

end Idle

/-- Whatever the interleaving of the threads' sections, the counters of a ledger with no call in
progress are accounted for. -/
theorem idle_ledger_accounted {limits : BudgetLimits} {as : List BudgetAction}
    {w : BudgetWorld} (has : ∀ a ∈ as, a.NonNegative)
    (hrun : (BudgetWorld.initial limits).run as = some w) (hidle : w.waiting.isEmpty = true) :
    Accounted w := by
  obtain ⟨l, hl⟩ := tallies_run (tallies_initial limits) has hrun
  exact hl.accounted hidle

def probeLimits : BudgetLimits where
  maxRequests := 2
  maxInputTokens := 100
  maxOutputTokens := 100
  maxTotalTokens := 150
  maxRequestsPerTrial := 2
  maxInputTokensPerTrial := 100
  maxOutputTokensPerTrial := 100
  maxTotalTokensPerTrial := 150

/-- A settlement that races with a cancellation of the same reservation. -/
def racingActions : List BudgetAction :=
  [.enter 0 (.reserve "trial" 10 10), .enter 1 (.markDispatched 0), .enter 0 (.settle 0 3 4),
    .enter 1 (.cancel 0), .resume 0]

theorem idle_ledger_accounted_racing :
    ∃ w, (BudgetWorld.initial probeLimits).run racingActions = some w ∧
      w.waiting.isEmpty = true ∧ w.ledger.committed = (1, 3, 4) ∧ Accounted w := by
  have hrun : ((BudgetWorld.initial probeLimits).run racingActions).isSome = true := by decide
  obtain ⟨w, hw⟩ := Option.isSome_iff_exists.mp hrun
  have hends : ((BudgetWorld.initial probeLimits).run racingActions).map (fun w =>
      (w.waiting.isEmpty, w.ledger.committed)) = some (true, (1, 3, 4)) := by decide
  rw [hw, Option.map_some, Option.some.injEq, Prod.mk.injEq] at hends
  refine ⟨w, hw, hends.1, hends.2, idle_ledger_accounted ?_ hw hends.1⟩
  intro a ha
  simp only [racingActions, List.mem_cons, List.not_mem_nil, or_false] at ha
  rcases ha with rfl | rfl | rfl | rfl | rfl <;> simp [BudgetAction.NonNegative,
    BudgetCall.NonNegative]

end EdaGym
