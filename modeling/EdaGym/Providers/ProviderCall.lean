import EdaGym.Lib.Process
import EdaGym.Providers.CampaignClosing
import EdaGym.Providers.ExchangeRefinement
import EdaGym.Providers.ResponseDecoding

/-!
# One call of `request`

The pieces of `ExchangeState.step` in the order in which one call of `ResponsesCampaign.request`
goes through them, with every way the credential, the observer, the transport and the response can
turn out. The call closes the reservation it has made, unless it accepts a response whose model
label or token counters the campaign journal refuses: then it raises and the paid reservation stays
open.
-/

namespace EdaGym

def MAX_PROVIDER_TRANSCRIPT_REQUEST_BYTES : Nat := 1 <<< 20

structure RawHttpResponse where
  status : Nat
  headers : Dict String String
  body : List UInt8

structure ResponsesRequest where
  model : ModelLabel
  tools : List Identifier
  toolChoiceRequired : Bool
  tokenClaim : RequestTokenClaim
  wireBody : List UInt8

def ResponsesRequest.AcceptsToolCall (request : ResponsesRequest) (name : PyStr) : Prop :=
  ∃ tool ∈ request.tools, PyStr.ofString tool = name

instance (request : ResponsesRequest) (name : PyStr) : Decidable (request.AcceptsToolCall name) :=
  inferInstanceAs (Decidable (∃ _ ∈ _, _))

def DecodedResult.calls (result : DecodedResult) : List PyStr :=
  result.outputs.filterMap fun
    | .functionCall _ name _ _ => some name
    | _ => none

def validateToolCalls (request : ResponsesRequest) (result : DecodedResult) :
    Except RequestError Unit := do
  raiseIf (request.toolChoiceRequired = true ∧ result.calls.length ≠ 1)
    (.protocol "provider did not return the one required tool call")
  raiseIf (∃ name ∈ result.calls, ¬ request.AcceptsToolCall name)
    (.protocol "provider called a tool outside the request contract")

/-- A sender, with what `request` checks before it reserves anything. -/
structure ProviderSender extends ResponsesCampaign where
  closed : Bool := false
  boundTrialId : Option Identifier := none

/-- How the two calls of an observer end. -/
structure ExchangeObserver where
  requestReserved : Except RequestError Unit
  responseReceived : Except RequestError Unit

variable [Canonical]

/-- The arguments of a call and what it meets outside the campaign journal. -/
structure ProviderCall where
  sender : ProviderSender
  trialId : Identifier
  requestKey : Identifier
  responsesRequest : ResponsesRequest
  observer : Option ExchangeObserver
  authorize : Except RequestError Unit
  exchange : Except RequestError RawHttpResponse
  reservationId : Identifier
  eventIds : Nat → UUID
  /-- The commits of other work of the campaign, before the request leaves and afterwards. -/
  beforeDispatch : List (List CampaignEvent) := []
  afterDispatch : List (List CampaignEvent) := []

/-- The reservation an event is about. -/
def CampaignEventPayload.reservationId? : CampaignEventPayload → Option Identifier
  | .reservationCreated payload => some payload.reservationId
  | .reservationDispatched payload => some payload.reservationId
  | .reservationCancelled payload => some payload.reservationId
  | .workSettled payload => some payload.reservationId
  | .providerAttemptSettled payload => some payload.reservationId
  | .trialOutcomeRecorded _ => none
  | .budgetStopped _ => none

variable [CampaignCanonical]

/-- `settle_completed` for a decoded result: only now its texts have to be labels. -/
def settleDecoded (header : CampaignHeader) (reservation : CampaignReservation)
    (result : DecodedResult) (eventId : UUID) (committed : List CampaignEvent) :
    Except CampaignError (List CampaignEvent) := do
  let model ← orRaise result.reportedModel.toString?
    (.valueError "Input should be a valid string, unable to parse raw data as a unicode string")
  raiseIf (∃ tier ∈ result.reportedServiceTier, ¬ IsServiceTierLabel tier)
    (.valueError "String should match pattern")
  settleProvider header reservation .completed result.usage
    { model := some model, serviceTier := result.reportedServiceTier, status := some result.status }
    none eventId committed

namespace ProviderCall

abbrev Journal := List CampaignEvent

/-- A transaction of the runner. -/
def commit (f : Journal → Except CampaignError Journal) : Process Journal RequestError Unit :=
  .transact fun committed =>
    match f committed with
    | .ok journal => .ok (⟨⟩, journal)
    | .error error => .error (.campaign error)

variable (header : CampaignHeader) (call : ProviderCall)

/-- A transaction of other work; the handle of the reservation is private to the call. -/
def otherCommit (committed : Journal) (events : List CampaignEvent) : Journal :=
  match transactCampaign header committed events with
  | .ok journal =>
    if ∃ event ∈ events, event.payload.reservationId? = some call.reservationId then committed
    else journal
  | .error _ => committed

def meanwhile (batches : List (List CampaignEvent)) : Process Journal RequestError Unit :=
  .alter fun committed => batches.foldl (call.otherCommit header) committed

/-- What `request` checks before it reserves anything. -/
def guards : Except RequestError Unit := do
  raiseIf (call.sender.closed = true)
    (.protocol "provider campaign is closed")
  raiseIf (∃ trialId ∈ call.sender.boundTrialId, call.trialId ≠ trialId)
    (.protocol "provider sender is bound to another campaign trial")
  raiseIf (call.sender.boundTrialId ≠ none ∧ call.observer.isNone)
    (.protocol "campaign provider requests require a run journal observer")
  raiseIf (MAX_PROVIDER_TRANSCRIPT_REQUEST_BYTES < call.responsesRequest.wireBody.length)
    (.protocol "serialized request exceeds the wire byte limit")

def reserve (committed : Journal) :
    Except RequestError (Except BudgetRejection CampaignReservation × Journal) :=
  match reserveProviderAttempt header call.trialId call.requestKey call.responsesRequest.model
      call.responsesRequest.tokenClaim call.sender.securityBinding call.reservationId
      (call.eventIds 0) committed with
  | .ok (journal, outcome) => .ok (outcome, journal)
  | .error error => .error (.campaign error)

/-- The part of `request` before its first `try`. -/
def admission : Process Journal RequestError CampaignReservation := do
  Process.ofExcept call.guards
  let outcome ← Process.transact (call.reserve header)
  match outcome with
  | .ok reservation => return reservation
  | .error rejection => throw (.budget rejection)

/-- The first `try` block. -/
def prepared : Except RequestError Unit := do
  call.authorize
  match call.observer with
  | none => return
  | some observer => observer.requestReserved

/-- What the observer makes of the response. -/
def recorded : Except RequestError Unit :=
  match call.observer with
  | none => .ok ⟨⟩
  | some observer => observer.responseReceived

variable [TextRuntime]

/-- The second `try` block. -/
def answer : Except RequestError DecodedResult := do
  let raw ← call.exchange
  raiseIf (¬ (200 ≤ raw.status ∧ raw.status < 300)) (.http raw.status)
  let contentType := TextRuntime.casefold ((raw.headers.get? "content-type").getD "")
  raiseIf ("application/json".toList.isPrefixOf contentType.toList = false)
    (.protocol "provider success response is not JSON")
  let result ← decodeResult raw.body
  validateToolCalls call.responsesRequest result
  return result

/-- `request` from its second `try` on. -/
def conclude (reservation : CampaignReservation) : Process Journal RequestError DecodedResult := do
  let result ← (Process.ofExcept call.answer).onRaise fun error =>
    commit (settleFailed header reservation (retryCondition error.exchange) (call.eventIds 2))
  (Process.ofExcept call.recorded).onRaise fun _ =>
    commit (settleDecoded header reservation result (call.eventIds 2))
  commit (settleDecoded header reservation result (call.eventIds 2))
  return result

/-- `request` from its first `try` on. -/
def dispatch (reservation : CampaignReservation) : Process Journal RequestError DecodedResult := do
  call.meanwhile header call.beforeDispatch
  (Process.ofExcept call.prepared).onRaise fun _ =>
    commit (cancel header reservation (call.eventIds 1))
  commit (markDispatched header reservation (call.eventIds 1))
  call.meanwhile header call.afterDispatch
  call.conclude header reservation

def request : Process Journal RequestError DecodedResult := do
  let reservation ← call.admission header
  call.dispatch header reservation

end ProviderCall

end EdaGym
