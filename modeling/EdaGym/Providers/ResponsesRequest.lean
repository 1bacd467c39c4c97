import EdaGym.Lib.AsciiJson
import EdaGym.Providers.ProviderCall

/-!
# Typed requests of a provider

The items of a Responses request, the checks of its constructors and the bytes that `_wire_body`
writes. Every item bounds its texts in characters; the sender bounds the whole body in bytes.
-/

namespace EdaGym

/-! ### Input items -/

/-- A non-empty text of at most `bound` characters. -/
def PyStr.IsBounded (bound : Nat) (s : PyStr) : Prop :=
  s.codePoints ≠ [] ∧ s.codePoints.length ≤ bound

instance (bound : Nat) (s : PyStr) : Decidable (s.IsBounded bound) :=
  inferInstanceAs (Decidable (_ ∧ _))

lemma PyStr.ofString_isBounded {bound : Nat} {s : String} :
    (PyStr.ofString s).IsBounded bound ↔ s ≠ "" ∧ s.length ≤ bound := by
  simp [PyStr.IsBounded, PyStr.ofString, String.length_toList]

lemma length_le_utf8ByteSize (s : String) : s.length ≤ s.utf8ByteSize := by
  have hchars : ∀ cs : List Char, cs.length ≤ (String.ofList cs).utf8ByteSize := by
    intro cs
    induction cs with
    | nil => exact Nat.zero_le _
    | cons c cs ih =>
      have hc := Char.utf8Size_pos c
      rw [String.ofList_cons, String.utf8ByteSize_append, String.utf8ByteSize_singleton,
        List.length_cons]
      omega
  have hs := hchars s.toList
  rwa [String.ofList_toList, String.length_toList] at hs

/-- A text has no more characters than bytes. -/
lemma PyStr.isBounded_of_size {bound : Nat} {s : String} (hne : s ≠ "")
    (hsize : s.utf8ByteSize ≤ bound) : (PyStr.ofString s).IsBounded bound :=
  PyStr.ofString_isBounded.mpr ⟨hne, (length_le_utf8ByteSize s).trans hsize⟩

/-- `[A-Za-z_]`. -/
def isToolNameStart (n : Nat) : Bool :=
  (0x41 ≤ n && n ≤ 0x5a) || (0x61 ≤ n && n ≤ 0x7a) || n = 0x5f

/-- `[A-Za-z0-9_-]`. -/
def isToolNamePart (n : Nat) : Bool := isToolNameStart n || (0x30 ≤ n && n ≤ 0x39) || n = 0x2d

/-- The values of `ToolName`. -/
def IsToolName (name : PyStr) : Prop :=
  name.IsBounded 64 ∧ (∀ n ∈ name.codePoints.head?, isToolNameStart n = true) ∧
    ∀ n ∈ name.codePoints, isToolNamePart n = true

instance (name : PyStr) : Decidable (IsToolName name) := inferInstanceAs (Decidable (_ ∧ _ ∧ _))

inductive InputRole
  | developer | user | assistant
deriving DecidableEq, Repr

def InputRole.value : InputRole → String
  | developer => "developer"
  | user => "user"
  | assistant => "assistant"

structure InputMessage where
  role : InputRole
  content : PyStr
  content_bound : content.IsBounded 1000000

/-- Continuation item for one provider function call. -/
structure FunctionCallOutput where
  callId : PyStr
  output : PyStr
  callId_bound : callId.IsBounded 256
  output_bound : output.IsBounded 1000000

/-- Stateless replay of one prior provider function call. -/
structure FunctionCallInput where
  callId : PyStr
  name : PyStr
  arguments : PyStr
  callId_bound : callId.IsBounded 256
  arguments_bound : arguments.IsBounded 1000000
  name_valid : IsToolName name

inductive ResponseInput
  | message (item : InputMessage)
  | call (item : FunctionCallInput)
  | output (item : FunctionCallOutput)

/-- `InputMessage(role=role, content=content)`. -/
def inputMessage (role : InputRole) (content : PyStr) : Except String InputMessage :=
  if h : content.IsBounded 1000000 then .ok ⟨role, content, h⟩
  else .error "validation error for InputMessage"

/-- `FunctionCallOutput(call_id=callId, output=output)`. -/
def functionCallOutput (callId output : PyStr) : Except String FunctionCallOutput :=
  if hid : callId.IsBounded 256 then
    if hout : output.IsBounded 1000000 then .ok ⟨callId, output, hid, hout⟩
    else .error "function call output requires bounded non-empty content"
  else .error "function call output requires a bounded call identifier"

/-- `FunctionCallInput(call_id=callId, name=name, arguments=arguments)`. -/
def functionCallInput (callId name arguments : PyStr) : Except String FunctionCallInput :=
  if hid : callId.IsBounded 256 then
    if harg : arguments.IsBounded 1000000 then
      if hname : IsToolName name then .ok ⟨callId, name, arguments, hid, harg, hname⟩
      else .error "validation error for ToolName"
    else .error "function call input requires bounded arguments"
  else .error "function call input requires a bounded call identifier"

lemma inputMessage_eq_ok {role : InputRole} {content : PyStr} {item : InputMessage} :
    inputMessage role content = .ok item ↔ item.role = role ∧ item.content = content := by
  obtain ⟨role', content', hbound⟩ := item
  unfold inputMessage
  split_ifs with h
  · simp [eq_comm]
  · simp only [false_iff, not_and]
    rintro rfl rfl
    exact h hbound

lemma functionCallOutput_eq_ok {callId output : PyStr} {item : FunctionCallOutput} :
    functionCallOutput callId output = .ok item ↔ item.callId = callId ∧ item.output = output := by
  obtain ⟨callId', output', hid', hout'⟩ := item
  unfold functionCallOutput
  split_ifs with hid hout
  · simp [eq_comm]
  · simp only [false_iff, not_and]
    rintro rfl rfl
    exact hout hout'
  · simp only [false_iff, not_and]
    rintro rfl
    exact absurd hid' hid

lemma functionCallInput_eq_ok {callId name arguments : PyStr} {item : FunctionCallInput} :
    functionCallInput callId name arguments = .ok item ↔
      item.callId = callId ∧ item.name = name ∧ item.arguments = arguments := by
  obtain ⟨callId', name', arguments', hid', harg', hname'⟩ := item
  unfold functionCallInput
  split_ifs with hid harg hname
  · simp [eq_comm]
  · simp only [false_iff, not_and]
    rintro - rfl
    exact absurd hname' hname
  · simp only [false_iff, not_and]
    rintro - - rfl
    exact harg harg'
  · simp only [false_iff, not_and]
    rintro rfl
    exact absurd hid' hid

/-! ### Tools -/

inductive ToolValueKind
  | string | integer | number | boolean
deriving DecidableEq, Repr

def ToolValueKind.value : ToolValueKind → String
  | string => "string"
  | integer => "integer"
  | number => "number"
  | boolean => "boolean"

lemma choiceless : ([] : List String) ≠ [] → ToolValueKind.string = .string := fun _ => rfl

/-- A parameter of a strict function tool, which is always required. -/
structure ToolParameter where
  name : String
  kind : ToolValueKind
  description : String
  choices : List String := []
  name_valid : IsToolName (PyStr.ofString name) := by decide
  description_bound : (PyStr.ofString description).IsBounded 512 := by
    exact PyStr.isBounded_of_size (by decide +kernel) (by decide +kernel)
  choices_nodup : choices.Nodup := by first | exact List.nodup_nil | decide
  choices_string : choices ≠ [] → kind = .string := by first | exact choiceless | decide

structure FunctionTool where
  name : String
  description : String
  parameters : List ToolParameter := []
  name_valid : IsToolName (PyStr.ofString name) := by decide
  description_bound : (PyStr.ofString description).IsBounded 1024 := by
    exact PyStr.isBounded_of_size (by decide +kernel) (by decide +kernel)
  names_nodup : (parameters.map ToolParameter.name).Nodup := by decide

/-! ### The wire -/

namespace AsciiJson

def ofPyStr (s : PyStr) : AsciiJson := .text s.codePoints

def ofString (s : String) : AsciiJson := ofPyStr (PyStr.ofString s)

/-- A dictionary with plain keys. -/
def record (fields : List (String × AsciiJson)) : AsciiJson :=
  .dict (fields.map fun field => ((PyStr.ofString field.1).codePoints, field.2))

lemma length_le_record {fields : List (String × AsciiJson)} {name : String} {v : AsciiJson}
    (h : (name, v) ∈ fields) : v.chars.length ≤ (record fields).chars.length :=
  length_le_dict (k := (PyStr.ofString name).codePoints)
    (List.mem_map.mpr ⟨(name, v), h, rfl⟩)

end AsciiJson

open AsciiJson (ofPyStr ofString record)

def ResponseInput.wireItem : ResponseInput → AsciiJson
  | .message item =>
    record [("role", ofString item.role.value), ("content", ofPyStr item.content)]
  | .call item =>
    record [("type", ofString "function_call"), ("call_id", ofPyStr item.callId),
      ("name", ofPyStr item.name), ("arguments", ofPyStr item.arguments)]
  | .output item =>
    record [("type", ofString "function_call_output"), ("call_id", ofPyStr item.callId),
      ("output", ofPyStr item.output)]

def ToolParameter.schema (parameter : ToolParameter) : AsciiJson :=
  let choices :=
    if parameter.choices = [] then []
    else [("enum", AsciiJson.list (parameter.choices.map ofString))]
  record ([("type", ofString parameter.kind.value),
    ("description", ofString parameter.description)] ++ choices)

def FunctionTool.wireSchema (tool : FunctionTool) : AsciiJson :=
  record [("type", ofString "object"),
    ("properties",
      record (tool.parameters.map fun parameter => (parameter.name, parameter.schema))),
    ("required", .list (tool.parameters.map fun parameter => ofString parameter.name)),
    ("additionalProperties", .bool false)]

def FunctionTool.wireItem (tool : FunctionTool) : AsciiJson :=
  record [("type", ofString "function"), ("name", ofString tool.name),
    ("description", ofString tool.description), ("parameters", tool.wireSchema),
    ("strict", .bool true)]

/-- A `ResponsesRequest` with all its items. -/
structure ItemizedRequest where
  model : ModelLabel
  inputs : List ResponseInput
  tools : List FunctionTool
  reasoningEffort : Option String := none
  serviceTier : Option ServiceTierLabel := none
  toolChoiceRequired : Bool := false
  tokenClaim : RequestTokenClaim

namespace ItemizedRequest

variable (request : ItemizedRequest)

def wirePayload : AsciiJson :=
  let tools :=
    if request.tools = [] then []
    else ("tools", AsciiJson.list (request.tools.map FunctionTool.wireItem)) ::
      (if request.toolChoiceRequired then [("tool_choice", ofString "required")] else [])
  let reasoning := request.reasoningEffort.toList.map fun effort =>
    ("reasoning", record [("effort", ofString effort)])
  let tier := request.serviceTier.toList.map fun label => ("service_tier", ofString label)
  record ([("model", ofString request.model),
    ("input", .list (request.inputs.map ResponseInput.wireItem)),
    ("max_output_tokens", .nat request.tokenClaim.outputTokens), ("store", .bool false)] ++
    tools ++ reasoning ++ tier)

/-- The serialized request; each of its characters is one byte. -/
def wireBody : List Char := request.wirePayload.chars

/-- The request as its sender reads it. -/
def toResponsesRequest : ResponsesRequest where
  model := request.model
  tools := request.tools.map FunctionTool.name
  toolChoiceRequired := request.toolChoiceRequired
  tokenClaim := request.tokenClaim
  wireBody := request.wireBody.map fun c => c.toNat.toUInt8

lemma length_toResponsesRequest :
    request.toResponsesRequest.wireBody.length = request.wireBody.length := List.length_map _

lemma length_wireItem_le {item : ResponseInput} (h : item ∈ request.inputs) :
    item.wireItem.chars.length ≤ request.wireBody.length := by
  have hlist := AsciiJson.length_le_list (List.mem_map_of_mem (f := ResponseInput.wireItem) h)
  have hmem : ("input", AsciiJson.list (request.inputs.map ResponseInput.wireItem)) ∈
      [("model", ofString request.model),
        ("input", .list (request.inputs.map ResponseInput.wireItem)),
        ("max_output_tokens", .nat request.tokenClaim.outputTokens), ("store", .bool false)] := by
    simp
  apply hlist.trans
  apply AsciiJson.length_le_record
  exact List.mem_append_left _ (List.mem_append_left _ (List.mem_append_left _ hmem))

end ItemizedRequest

/-! ### Building a request -/

def inputCallIds (inputs : List ResponseInput) : List PyStr :=
  inputs.filterMap fun
    | .call item => some item.callId
    | _ => none

def outputCallIds (inputs : List ResponseInput) : List PyStr :=
  inputs.filterMap fun
    | .output item => some item.callId
    | _ => none

/-- Every output stands behind the call it answers; the calls `seen` stand before the list. -/
def OutputsFollow (seen : List PyStr) : List ResponseInput → Prop
  | [] => True
  | .message _ :: rest => OutputsFollow seen rest
  | .call item :: rest => OutputsFollow (item.callId :: seen) rest
  | .output item :: rest => item.callId ∈ seen ∧ OutputsFollow seen rest

instance decidableOutputsFollow (seen : List PyStr) :
    (inputs : List ResponseInput) → Decidable (OutputsFollow seen inputs)
  | [] => isTrue trivial
  | .message _ :: rest => decidableOutputsFollow seen rest
  | .call item :: rest => decidableOutputsFollow (item.callId :: seen) rest
  | .output item :: rest =>
    haveI := decidableOutputsFollow seen rest
    inferInstanceAs (Decidable (item.callId ∈ seen ∧ OutputsFollow seen rest))

/-- What `ProviderDefaults` accepts. -/
def ProviderDefaultsFit (model : ModelLabel) (reasoningEffort : Option String)
    (serviceTier : Option ServiceTierLabel) : Prop :=
  IsModelLabel model ∧ (∀ effort ∈ reasoningEffort, 1 ≤ effort.length ∧ effort.length ≤ 32) ∧
    ∀ label ∈ serviceTier, IsServiceTierLabel label

instance (model : ModelLabel) (reasoningEffort : Option String)
    (serviceTier : Option ServiceTierLabel) :
    Decidable (ProviderDefaultsFit model reasoningEffort serviceTier) :=
  inferInstanceAs (Decidable (_ ∧ _ ∧ _))

/-- `ResponsesRequest(...)`. -/
def responsesRequest (model : ModelLabel) (inputs : List ResponseInput) (tools : List FunctionTool)
    (reasoningEffort : Option String) (serviceTier : Option ServiceTierLabel)
    (toolChoiceRequired : Bool) (tokenClaim : RequestTokenClaim) :
    Except String ItemizedRequest := do
  raiseIf (inputs = []) "a Responses request requires at least one input"
  raiseIf (¬ (inputCallIds inputs).Nodup ∨ ¬ (outputCallIds inputs).Nodup)
    "function call output identifiers must be unique"
  raiseIf (¬ (inputCallIds inputs ⊆ outputCallIds inputs ∧
      outputCallIds inputs ⊆ inputCallIds inputs))
    "stateless continuation requires matched call and output items"
  raiseIf (¬ OutputsFollow [] inputs) "function call input must precede its output"
  raiseIf (¬ (tools.map FunctionTool.name).Nodup) "tool names must be unique"
  raiseIf (¬ ProviderDefaultsFit model reasoningEffort serviceTier)
    "validation error for ProviderDefaults"
  raiseIf (toolChoiceRequired = true ∧ tools = [])
    "required tool choice needs at least one declared tool"
  return { model, inputs, tools, reasoningEffort, serviceTier, toolChoiceRequired, tokenClaim }

/-! ### Continuations -/

/-- A prior call with what its tool has returned. -/
structure AnsweredCall where
  call : FunctionCallInput
  answer : FunctionCallOutput
  same_call : answer.callId = call.callId

/-- The two items that replay an answered call. -/
def AnsweredCall.items (answered : AnsweredCall) : List ResponseInput :=
  [.call answered.call, .output answered.answer]

def AnsweredCall.callId (answered : AnsweredCall) : PyStr := answered.call.callId

lemma inputCallIds_items (answered : List AnsweredCall) :
    inputCallIds (answered.flatMap AnsweredCall.items) = answered.map AnsweredCall.callId := by
  induction answered with
  | nil => rfl
  | cons first rest ih =>
    rw [List.flatMap_cons, List.map_cons, ← ih]
    rfl

lemma outputCallIds_items (answered : List AnsweredCall) :
    outputCallIds (answered.flatMap AnsweredCall.items) = answered.map AnsweredCall.callId := by
  induction answered with
  | nil => rfl
  | cons first rest ih =>
    rw [List.flatMap_cons, List.map_cons, ← ih, AnsweredCall.callId, ← first.same_call]
    rfl

lemma outputsFollow_items (seen : List PyStr) (answered : List AnsweredCall) :
    OutputsFollow seen (answered.flatMap AnsweredCall.items) := by
  induction answered generalizing seen with
  | nil => trivial
  | cons first rest ih =>
    refine ⟨?_, ih _⟩
    rw [first.same_call]
    exact List.mem_cons_self

/-- A conversation of two messages and the answered calls so far is a request when its calls can be
told apart and the configuration of the provider is valid. -/
lemma responsesRequest_eq_ok {model : ModelLabel} {developer user : InputMessage}
    {answered : List AnsweredCall} {tools : List FunctionTool} {reasoningEffort : Option String}
    {serviceTier : Option ServiceTierLabel} {tokenClaim : RequestTokenClaim}
    {request : ItemizedRequest} (htools : tools ≠ [])
    (hnames : (tools.map FunctionTool.name).Nodup) :
    responsesRequest model
        (.message developer :: .message user :: answered.flatMap AnsweredCall.items) tools
        reasoningEffort serviceTier true tokenClaim = .ok request ↔
      (answered.map AnsweredCall.callId).Nodup ∧
        ProviderDefaultsFit model reasoningEffort serviceTier ∧
        request =
          { model, tools, reasoningEffort, serviceTier, tokenClaim, toolChoiceRequired := true
            inputs := .message developer :: .message user ::
              answered.flatMap AnsweredCall.items } := by
  have hin : inputCallIds (.message developer :: .message user ::
      answered.flatMap AnsweredCall.items) = answered.map AnsweredCall.callId :=
    inputCallIds_items answered
  have hout : outputCallIds (.message developer :: .message user ::
      answered.flatMap AnsweredCall.items) = answered.map AnsweredCall.callId :=
    outputCallIds_items answered
  have hfollow : OutputsFollow [] (.message developer :: .message user ::
      answered.flatMap AnsweredCall.items) :=
    outputsFollow_items [] answered
  simp only [responsesRequest, raiseIf_bind_eq_ok, pure_eq_ok, hin, hout, hfollow, hnames, htools,
    List.cons_ne_nil, not_false_eq_true, not_true_eq_false, or_self, not_not, and_self,
    List.Subset.refl, and_false, true_and, eq_comm (a := request)]

end EdaGym
