import EdaGym.Providers.Responses

/-!
# Decoding a response

`_decode_result` takes the bytes of a successful exchange to a typed result, or refuses them. What
`json.loads` and `str.casefold` do to a text is left to an instance of `TextRuntime`; every way they
can end is covered.
-/

namespace EdaGym

/-! ### JSON values -/

/-- A Python text. A lone surrogate is a code point of it like any other. -/
structure PyStr where
  codePoints : List Nat
deriving DecidableEq

def PyStr.ofString (s : String) : PyStr := ⟨s.toList.map Char.toNat⟩

/-- The text, unless it has a lone surrogate. -/
def PyStr.toString? (s : PyStr) : Option String :=
  let characters := s.codePoints.mapM fun n : Nat =>
    if n.isValidChar then some (Char.ofNat n) else none
  characters.map String.ofList

/-- What `json.loads` returns; the members of an object are in the order of the text. -/
inductive Json
  | null
  | bool (value : Bool)
  | int (value : Int)
  | float
  | str (value : PyStr)
  | arr (items : List Json)
  | obj (members : List (PyStr × Json))

/-- `members.get(name, default)`: of equal names the last one counts. -/
def getMember (members : List (PyStr × Json)) (name : String) (default : Json) : Json :=
  ((members.filter fun member => member.1 = PyStr.ofString name).getLast?.map Prod.snd).getD default

/-- The member of an object; `null` where there is none. -/
def Json.member (name : String) : Json → Json
  | .obj members => getMember members name .null
  | _ => .null

def Json.isObject : Json → Bool
  | .obj _ => true
  | _ => false

def Json.text? : Json → Option PyStr
  | .str value => some value
  | _ => none

def Json.items? : Json → Option (List Json)
  | .arr items => some items
  | _ => none

/-- `x == name`, for a value `x` of any type. -/
def Json.isText (name : String) : Json → Bool
  | .str value => value = PyStr.ofString name
  | _ => false

inductive LoadsError
  /-- `UnicodeDecodeError` or `JSONDecodeError`. -/
  | malformed
  /-- Any other exception, as for a number of too many digits or too deep a nesting. -/
  | other
deriving DecidableEq, Repr

class TextRuntime where
  loads : List UInt8 → Except LoadsError Json
  loadsText : PyStr → Except LoadsError Json
  casefold : String → String

/-! ### Errors -/

/-- What a call of `request` raises. -/
inductive RequestError
  | protocol (message : String)
  | http (status : Nat)
  | transport
  /-- An exception of the credential, the observer, the transport or the decoder. -/
  | raised
  | campaign (error : CampaignError)
  | budget (rejection : BudgetRejection)
deriving DecidableEq

/-- The error as the retry policy sees it: the type of a connect failure has to be the exact one. -/
def RequestError.exchange : RequestError → ExchangeError
  | .http status => .http status
  | .transport => .transport
  | _ => .other

/-! ### Results -/

inductive DecodedOutput
  | outputText (text : PyStr)
  | functionCall (callId name arguments : PyStr) (status : Option FunctionCallStatus)
  | refusal (text : PyStr)
  | reasoningSummary (texts : List PyStr)
deriving DecidableEq

/-- A `ResponsesResult` with its texts as the provider has sent them. -/
structure DecodedResult where
  responseId : PyStr
  reportedModel : PyStr
  reportedServiceTier : Option ServiceTierLabel
  status : ProviderResponseStatus
  outputs : List DecodedOutput
  usage : Option ProviderUsage

/-- The values of `ServiceTierLabel`. -/
def IsServiceTierLabel (s : String) : Prop :=
  1 ≤ s.toList.length ∧ s.toList.length ≤ 32 ∧ ∀ c ∈ s.toList, isSpace c = false

instance (s : String) : Decidable (IsServiceTierLabel s) :=
  -- over the characters of the label, and not over all characters
  have : Decidable (∀ c ∈ s.toList, isSpace c = false) := List.decidableBAll _ _
  inferInstanceAs (Decidable (_ ∧ _ ∧ _))

def functionCallStatus (value : PyStr) : Option FunctionCallStatus :=
  if value = PyStr.ofString "in_progress" then some .inProgress
  else if value = PyStr.ofString "completed" then some .completed
  else if value = PyStr.ofString "incomplete" then some .incomplete
  else none

def responseStatus (value : PyStr) : Option ProviderResponseStatus :=
  if value = PyStr.ofString "completed" then some .completed
  else if value = PyStr.ofString "incomplete" then some .incomplete
  else if value = PyStr.ofString "failed" then some .failed
  else if value = PyStr.ofString "in_progress" then some .inProgress
  else if value = PyStr.ofString "queued" then some .queued
  else if value = PyStr.ofString "cancelled" then some .cancelled
  else none

/-! ### The decoder -/

/-- `_SERVICE_TIER.validate_python(value)`. -/
def validateServiceTier (value : Json) : Option ServiceTierLabel :=
  (value.text?.bind PyStr.toString?).filter fun label => IsServiceTierLabel label

def decodeServiceTier : Json → Except RequestError (Option ServiceTierLabel)
  | .null => .ok none
  | value =>
    match validateServiceTier value with
    | some label => .ok (some label)
    | none => .error (.protocol "provider service tier is invalid")

def decodeMessagePart : Json → Except RequestError DecodedOutput
  | .obj members =>
    let partType := getMember members "type" .null
    if partType.isText "output_text" then do
      let text ← orRaise (getMember members "text" .null).text?
        (.protocol "provider output text must be a string")
      return .outputText text
    else if partType.isText "refusal" then do
      let refusal ← orRaise (getMember members "refusal" .null).text?
        (.protocol "provider refusal must be a string")
      return .refusal refusal
    else .error (.protocol "provider message part type is unsupported")
  | _ => .error (.protocol "provider message part must be an object")

def decodeCallStatus : Json → Except RequestError (Option FunctionCallStatus)
  | .null => .ok none
  | value =>
    match value.text?.bind functionCallStatus with
    | some status => .ok (some status)
    | none => .error (.protocol "provider function call status is unsupported")

def decodeSummaryPart (part : Json) : Except RequestError PyStr := do
  raiseIf ((part.member "type").isText "summary_text" = false)
    (.protocol "provider reasoning summary item is unsupported")
  orRaise (part.member "text").text?
    (.protocol "provider reasoning summary text must be a string")

/-- The outputs and the call identifiers read so far. -/
structure DecodedOutputs where
  outputs : List DecodedOutput := []
  callIds : List PyStr := []

section Decoder

variable [TextRuntime]

def decodeFunctionCall (seen : DecodedOutputs) (members : List (PyStr × Json)) :
    Except RequestError DecodedOutputs := do
  let field (name : String) := orRaise (getMember members name .null).text?
    (.protocol "provider function call fields must be strings" : RequestError)
  let callId ← field "call_id"
  let name ← field "name"
  let arguments ← field "arguments"
  raiseIf (callId ∈ seen.callIds)
    (.protocol "provider function call identifiers must be unique")
  let status ← decodeCallStatus (getMember members "status" .null)
  match TextRuntime.loadsText arguments with
  | .error .malformed => .error (.protocol "provider function arguments are not JSON")
  | .error .other => .error .raised
  | .ok (.obj _) => .ok {
      outputs := seen.outputs ++ [.functionCall callId name arguments status]
      callIds := seen.callIds ++ [callId] }
  | .ok _ => .error (.protocol "provider function arguments must be a JSON object")

def decodeOutput (seen : DecodedOutputs) : Json → Except RequestError DecodedOutputs
  | .obj members =>
    let itemType := getMember members "type" .null
    if itemType.isText "message" then do
      let content ← orRaise (getMember members "content" .null).items?
        (.protocol "provider message content must be a list")
      let parts ← content.mapM decodeMessagePart
      return { seen with outputs := seen.outputs ++ parts }
    else if itemType.isText "function_call" then decodeFunctionCall seen members
    else if itemType.isText "reasoning" then do
      let summary ← orRaise (getMember members "summary" (.arr [])).items?
        (.protocol "provider reasoning summary must be a list")
      let texts ← summary.mapM decodeSummaryPart
      return { seen with outputs := seen.outputs ++ [.reasoningSummary texts] }
    else .error (.protocol "provider output item type is unsupported")
  | _ => .error (.protocol "provider output item must be an object")

/-! ### Usage -/

/-- A counter that is an integer, and no boolean. -/
def counter? : Json → Option Nat
  | .int (.ofNat n) => some n
  | _ => none

def usageCounter (usage : Json) (name : String) : Except RequestError Nat :=
  orRaise (counter? (usage.member name))
    (.protocol "provider usage lacks a required non-negative counter")

def nestedUsageCounter (usage : Json) (groupName counterName : String) :
    Except RequestError (Option Nat) :=
  match usage.member groupName with
  | .null => .ok none
  | .obj members =>
    match getMember members counterName .null with
    | .null => .ok none
    | value =>
      match counter? value with
      | some n => .ok (some n)
      | none => .error (.protocol "provider usage detail must be a non-negative counter")
  | _ => .error (.protocol "provider usage detail must be an object")

/-- `ProviderUsage(...)`. -/
def providerUsage (inputTokens outputTokens totalTokens : Nat)
    (cachedInputTokens reasoningTokens : Option Nat) : Option ProviderUsage :=
  if h : totalTokens = inputTokens + outputTokens ∧ (∀ n ∈ cachedInputTokens, n ≤ inputTokens) ∧
      ∀ n ∈ reasoningTokens, n ≤ outputTokens then
    some {
      inputTokens, outputTokens, totalTokens, cachedInputTokens, reasoningTokens
      total_eq := h.1
      cached_le := h.2.1
      reasoning_le := h.2.2 }
  else none

def decodeUsage : Json → Except RequestError (Option ProviderUsage)
  | .null => .ok none
  | .obj members => do
    let usage := Json.obj members
    let inputTokens ← usageCounter usage "input_tokens"
    let outputTokens ← usageCounter usage "output_tokens"
    let totalTokens ← usageCounter usage "total_tokens"
    let cached ← nestedUsageCounter usage "input_tokens_details" "cached_tokens"
    let reasoning ← nestedUsageCounter usage "output_tokens_details" "reasoning_tokens"
    let usage ← orRaise (providerUsage inputTokens outputTokens totalTokens cached reasoning)
      (.protocol "provider usage counters are inconsistent")
    return some usage
  | _ => .error (.protocol "provider usage must be an object")

/-! ### The whole response -/

def decodeDocument (decoded : Json) : Except RequestError DecodedResult := do
  raiseIf (decoded.isObject = false) (.protocol "provider response must be an object")
  let typed {α : Type} (x : Option α) :=
    orRaise x (.protocol "provider response lacks required typed fields" : RequestError)
  let responseId ← typed (decoded.member "id").text?
  let reportedModel ← typed (decoded.member "model").text?
  let status ← typed (decoded.member "status").text?
  let output ← typed (decoded.member "output").items?
  let reportedServiceTier ← decodeServiceTier (decoded.member "service_tier")
  let seen ← foldSteps decodeOutput {} output
  let typedStatus ← orRaise (responseStatus status)
    (.protocol "provider response status is unsupported")
  let usage ← decodeUsage (decoded.member "usage")
  return {
    responseId, reportedModel, reportedServiceTier, status := typedStatus
    outputs := seen.outputs, usage }

def decodeResult (raw : List UInt8) : Except RequestError DecodedResult :=
  match TextRuntime.loads raw with
  | .error .malformed => .error (.protocol "provider response is not valid UTF-8 JSON")
  | .error .other => .error .raised
  | .ok decoded => decodeDocument decoded

/-! ### What the decoder lets through -/

/-- The model that the document names is a `ModelLabel`. -/
def Json.NamesModel (document : Json) : Prop :=
  ∃ label ∈ (document.member "model").text?.bind PyStr.toString?, IsModelLabel label

/-- The tokens that the document counts, if it does, are a JSON-safe number. -/
def Json.CountsSafely (document : Json) : Prop :=
  ∀ n ∈ counter? ((document.member "usage").member "total_tokens"), n ≤ JCS_INTEGER_MAX

omit [TextRuntime] in
lemma decodeServiceTier_eq_ok {value : Json} {tier : Option ServiceTierLabel}
    (h : decodeServiceTier value = .ok tier) : ∀ label ∈ tier, IsServiceTierLabel label := by
  intro label hlabel
  unfold decodeServiceTier at h
  split at h
  · cases h
    cases hlabel
  · split at h
    next label' hvalid =>
      obtain rfl := Except.ok.inj h
      obtain rfl : label' = label := Option.some.inj hlabel
      rw [validateServiceTier, Option.filter_eq_some_iff] at hvalid
      exact of_decide_eq_true hvalid.2
    next => cases h

omit [TextRuntime] in
/-- The usage counts the total of the document, and is there whenever the document has one. -/
lemma decodeUsage_eq_ok {value : Json} {usage : Option ProviderUsage}
    (h : decodeUsage value = .ok usage) :
    counter? (value.member "total_tokens") = usage.map ProviderUsage.totalTokens := by
  unfold decodeUsage at h
  split at h
  · cases h
    rfl
  · simp only [bind_eq_ok, usageCounter, orRaise_eq_ok, pure_eq_ok] at h
    obtain ⟨input, -, output, -, total, htotal, cached, -, reasoning, -, result, hresult, rfl⟩ := h
    unfold providerUsage at hresult
    split_ifs at hresult
    obtain rfl := Option.some.inj hresult
    exact htotal
  · cases h

/-- The model label and the counters come from the document as they are; only the service tier is
checked. -/
lemma decodeDocument_eq_ok {document : Json} {result : DecodedResult}
    (h : decodeDocument document = .ok result) :
    (document.member "model").text? = some result.reportedModel ∧
      (∀ tier ∈ result.reportedServiceTier, IsServiceTierLabel tier) ∧
      counter? ((document.member "usage").member "total_tokens") =
        result.usage.map ProviderUsage.totalTokens := by
  simp only [decodeDocument, bind_eq_ok, raiseIf_eq_ok, orRaise_eq_ok, exists_const,
    pure_eq_ok] at h
  obtain ⟨-, _, -, model, hmodel, _, -, _, -, tier, htier, _, -, _, -, usage, husage, rfl⟩ := h
  exact ⟨hmodel, decodeServiceTier_eq_ok htier, decodeUsage_eq_ok husage⟩

end Decoder

end EdaGym
