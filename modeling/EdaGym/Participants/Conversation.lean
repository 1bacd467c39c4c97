import EdaGym.Participants.ResponsesAdapter

/-!
# What the model is told

Every request of an action presents the instruction, the view and the exchanges before it, and after
an exchange the next request leaves unless a budget, the sender or one of the bounds of a request is
in the way.
-/

namespace EdaGym

open Process hiding ofExcept
open AdapterDesk ToolWorld

section Adapters

variable [Canonical]

/-! ### Exchanges -/

/-- The two items that present an exchange. -/
structure ToolExchange.Replayed (exchange : ToolExchange) (answered : AnsweredCall) : Prop where
  callId : answered.call.callId = exchange.callId
  name : answered.call.name = exchange.name
  arguments : answered.call.arguments = exchange.arguments
  output : answered.answer.output = PyStr.ofString exchange.output.text

section Files

variable [TextRuntime]

/-- A successful write of `content` at `path`. -/
def ToolExchange.Writes (exchange : ToolExchange) (path content : String) : Prop :=
  ∃ paths members, exchange.tool = .write paths ∧
    decodeExactObject exchange.arguments ["content", "path"] = .ok members ∧
    chosenMember members "path" paths.paths = .ok path ∧
    (getMember members "content" .null).text? = some (PyStr.ofString content)

def ToolExchange.Reads (exchange : ToolExchange) (path : String) : Prop :=
  ∃ paths members, exchange.tool = .read paths ∧
    decodeExactObject exchange.arguments ["path"] = .ok members ∧
    chosenMember members "path" paths.paths = .ok path

/-- The file of a path is left as it was found. -/
def ToolExchange.KeepsFile (exchange : ToolExchange) (path : String) : Prop :=
  exchange.after (posixParts path) = exchange.before (posixParts path)

/-- What the two workspace tools do. -/
structure ToolExchange.Faithful (exchange : ToolExchange) : Prop where
  read_path : ∀ paths, exchange.tool = .read paths → ∃ path, exchange.Reads path
  write_path : ∀ paths, exchange.tool = .write paths → ∃ path content, exchange.Writes path content
  writes : ∀ path content, exchange.Writes path content →
    exchange.after (posixParts path) = some (.file content.toUTF8 true 1)
  reads : ∀ path, exchange.Reads path → ∃ bytes mine links text,
    exchange.before (posixParts path) = some (.file bytes mine links) ∧
      String.fromUTF8? bytes = some text ∧
      exchange.output.text = if text = "" then "<empty>" else text
  read_keeps : ∀ path, exchange.Reads path → exchange.after = exchange.before
  write_keeps : ∀ path content, exchange.Writes path content → ∀ q ≠ posixParts path,
    exchange.before q ≠ none → exchange.after q = exchange.before q

omit [Canonical] [TextRuntime] in
lemma PyStr.toString?_ofString (s : String) : (PyStr.ofString s).toString? = some s := by
  have hchars : ∀ cs : List Char, (cs.map Char.toNat).mapM
      (fun n : Nat => if n.isValidChar then some (Char.ofNat n) else none) = some cs := by
    intro cs
    induction cs with
    | nil => rfl
    | cons c cs ih =>
      have hvalid : c.toNat.isValidChar := c.valid
      rw [List.map_cons, List.mapM_cons, if_pos hvalid, ih, Char.ofNat_toNat]
      rfl
  rw [PyStr.toString?, PyStr.ofString, hchars, Option.map_some, String.ofList_toList]

omit [Canonical] [TextRuntime] in
lemma PyStr.ofString_of_toString? {s : PyStr} {text : String} (h : s.toString? = some text) :
    PyStr.ofString text = s := by
  have hmap : ∀ (ns : List Nat) (cs : List Char), ns.mapM
      (fun n : Nat => if n.isValidChar then some (Char.ofNat n) else none) = some cs →
      cs.map Char.toNat = ns := by
    intro ns
    induction ns with
    | nil =>
      intro cs hcs
      cases hcs
      rfl
    | cons n ns ih =>
      intro cs hcs
      simp only [List.mapM_cons, Option.bind_eq_bind, Option.bind_eq_some_iff, Option.pure_def,
        Option.some.injEq, Option.ite_none_right_eq_some] at hcs
      obtain ⟨c, ⟨hvalid, rfl⟩, rest, hrest, rfl⟩ := hcs
      have hchar : (Char.ofNat n).toNat = n := by
        rw [Char.ofNat, dif_pos hvalid]
        rfl
      rw [List.map_cons, ih rest hrest, hchar]
  rw [PyStr.toString?, Option.map_eq_some_iff] at h
  obtain ⟨cs, hcs, rfl⟩ := h
  rw [PyStr.ofString, String.toList_ofList, hmap _ _ hcs]

omit [Canonical] in
/-- The arguments that a tool accepts can be replayed. -/
lemma arguments_isBounded {arguments : PyStr} {keys : List String} {members : List (PyStr × Json)}
    (h : decodeExactObject arguments keys = .ok members) : arguments.IsBounded 1000000 := by
  simp only [decodeExactObject, raiseIf_bind_eq_ok, orRaise_bind_eq_ok] at h
  obtain ⟨hne, encoded, hencoded, hsize, -⟩ := h
  rw [PyStr.encode?, Option.map_eq_some_iff] at hencoded
  obtain ⟨text, htext, rfl⟩ := hencoded
  obtain rfl := PyStr.ofString_of_toString? htext
  have hsize' : text.utf8ByteSize ≤ MAX_ARGUMENT_BYTES := not_lt.mp hsize
  apply PyStr.isBounded_of_size
  · rintro rfl
    exact hne rfl
  · exact hsize'.trans (by decide)

omit [Canonical] [TextRuntime] in
lemma fromUTF8?_toUTF8 (s : String) : String.fromUTF8? s.toUTF8 = some s := by
  have hvalid : s.toUTF8.IsValidUTF8 := s.isValidUTF8
  rw [String.fromUTF8?, dif_pos hvalid]
  rfl

variable {disk : WorkspaceDisk} {view : ParticipantView} {w w' : ToolWorld}

lemma arguments_isBounded_of_invoke {tool : ParticipantTool} {arguments : PyStr}
    {output : ParticipantToolOutput}
    (h : (tool.invoke disk arguments view).exec w = (.ok output, w')) :
    arguments.IsBounded 1000000 := by
  cases tool with
  | read paths =>
    obtain ⟨-, members, -, -, -, -, -, hmembers, -⟩ := exec_readFile_ok h
    exact arguments_isBounded hmembers
  | write paths =>
    obtain ⟨members, -, -, -, hmembers, -⟩ := exec_writeFile_ok h
    exact arguments_isBounded hmembers
  | eda bridge =>
    simp only [ParticipantTool.invoke, runOperation, exec_bind_eq_ok, exec_ofExcept,
      Prod.mk.injEq] at h
    obtain ⟨members, -, ⟨hmembers, -⟩, -⟩ := h
    exact arguments_isBounded hmembers
  | checkpoint callback =>
    simp only [ParticipantTool.invoke, takeCheckpoint, exec_bind_eq_ok, exec_ofExcept,
      Prod.mk.injEq] at h
    obtain ⟨members, -, ⟨hmembers, -⟩, -⟩ := h
    exact arguments_isBounded hmembers

variable {exchange : ToolExchange}

/-- An exchange whose tool has run from the workspace before it to the one after it. -/
lemma faithful_of_invoke
    (h : (exchange.tool.invoke disk exchange.arguments view).exec w = (.ok exchange.output, w'))
    (hbefore : exchange.before = w.workspace) (hafter : exchange.after = w'.workspace) :
    exchange.Faithful := by
  have hwrites : ∀ path content, exchange.Writes path content →
      exchange.after (posixParts path) = some (.file content.toUTF8 true 1) ∧
      ∀ q ≠ posixParts path, exchange.before q ≠ none → exchange.after q = exchange.before q := by
    rintro path content ⟨paths, members, htool, hmembers, hpath, hcontent⟩
    rw [htool] at h
    obtain ⟨members', path', content', encoded, hmembers', hpath', hcontent', hencoded, hplaced,
      hkept⟩ := exec_writeFile_ok h
    obtain rfl := Except.ok.inj (hmembers.symm.trans hmembers')
    obtain rfl := Except.ok.inj (hpath.symm.trans hpath')
    obtain rfl := Option.some.inj (hcontent.symm.trans hcontent')
    rw [PyStr.encode?, PyStr.toString?_ofString, Option.map_some, Option.some.injEq] at hencoded
    rw [hafter, hbefore, hencoded]
    exact ⟨hplaced, hkept⟩
  have hreads : ∀ path, exchange.Reads path → exchange.after = exchange.before ∧
      ∃ bytes mine links text, exchange.before (posixParts path) = some (.file bytes mine links) ∧
        String.fromUTF8? bytes = some text ∧
        exchange.output.text = if text = "" then "<empty>" else text := by
    rintro path ⟨paths, members, htool, hmembers, hpath⟩
    rw [htool] at h
    obtain ⟨hsame, members', path', bytes, mine, links, text, hmembers', hpath', hfile, htext,
      houtput⟩ := exec_readFile_ok h
    obtain rfl := Except.ok.inj (hmembers.symm.trans hmembers')
    obtain rfl := Except.ok.inj (hpath.symm.trans hpath')
    rw [hafter, hbefore]
    exact ⟨hsame, bytes, mine, links, text, hfile, htext, houtput⟩
  exact {
    read_path := by
      intro paths htool
      rw [htool] at h
      obtain ⟨-, members, path, -, -, -, -, hmembers, hpath, -⟩ := exec_readFile_ok h
      exact ⟨path, paths, members, htool, hmembers, hpath⟩
    write_path := by
      intro paths htool
      rw [htool] at h
      obtain ⟨members, path, content, encoded, hmembers, hpath, hcontent, hencoded, -⟩ :=
        exec_writeFile_ok h
      rw [PyStr.encode?, Option.map_eq_some_iff] at hencoded
      obtain ⟨text, htext, -⟩ := hencoded
      rw [← PyStr.ofString_of_toString? htext] at hcontent
      exact ⟨path, text, paths, members, htool, hmembers, hpath, hcontent⟩
    writes := fun path content hw => (hwrites path content hw).1
    reads := fun path hr => (hreads path hr).2
    read_keeps := fun path hr => (hreads path hr).1
    write_keeps := fun path content hw => (hwrites path content hw).2 }

/-! ### Reading what was written -/

omit [Canonical] [TextRuntime] in
lemma chosenMember_normal {members : List (PyStr × Json)} {name path : String}
    {paths : AllowedPaths}
    (h : chosenMember members name paths.paths = .ok path) : asPosix (posixParts path) = path := by
  rw [chosenMember, orRaise_eq_ok, Option.bind_eq_some_iff] at h
  obtain ⟨value, -, hfind⟩ := h
  exact paths.normal path (List.mem_of_find?_eq_some hfind)

/-- Nothing between the positions `i` and `j` writes the path again or, from outside of the two
workspace tools, changes its file. -/
def Untouched (exchanges : List ToolExchange) (path : String) (i j : Nat) : Prop :=
  ∀ k exchange, i < k → k < j → exchanges[k]? = some exchange →
    (∀ content, ¬ exchange.Writes path content) ∧
      ((∀ paths, exchange.tool ≠ .read paths ∧ exchange.tool ≠ .write paths) →
        exchange.KeepsFile path)

lemma ToolExchange.Faithful.keepsFile {path : String}
    (h : exchange.Faithful) (hnormal : asPosix (posixParts path) = path)
    (hfile : exchange.before (posixParts path) ≠ none)
    (hwrites : ∀ content, ¬ exchange.Writes path content)
    (houtside : (∀ paths, exchange.tool ≠ .read paths ∧ exchange.tool ≠ .write paths) →
      exchange.KeepsFile path) : exchange.KeepsFile path := by
  cases htool : exchange.tool with
  | read paths =>
    obtain ⟨other, hread⟩ := h.read_path paths htool
    exact congrFun (h.read_keeps other hread) _
  | write paths =>
    obtain ⟨other, content, hwrite⟩ := h.write_path paths htool
    refine h.write_keeps other content hwrite _ ?_ hfile
    intro hparts
    have hnormal' : asPosix (posixParts other) = other := by
      obtain ⟨_, _, -, -, hchosen, -⟩ := hwrite
      exact chosenMember_normal hchosen
    obtain rfl : other = path := by rw [← hnormal, hparts, hnormal']
    exact hwrites content hwrite
  | eda bridge => exact houtside fun paths => by simp [htool]
  | checkpoint callback => exact houtside fun paths => by simp [htool]

/-- The written file is still there when an exchange behind the write begins. -/
lemma file_before {exchanges : List ToolExchange} {path content : String}
    {i : Nat} (hfaithful : ∀ e ∈ exchanges, e.Faithful)
    (hlinked : exchanges.IsChain fun e next => next.before = e.after)
    (hi : exchanges[i]? = some exchange) (hwrite : exchange.Writes path content) :
    ∀ n later, exchanges[i + 1 + n]? = some later → Untouched exchanges path i (i + 1 + n) →
      later.before (posixParts path) = some (.file content.toUTF8 true 1) := by
  rw [List.isChain_iff_getElem] at hlinked
  have hlink : ∀ k e next, exchanges[k]? = some e → exchanges[k + 1]? = some next →
      next.before = e.after := by
    intro k e next he hnext
    obtain ⟨hk, rfl⟩ := List.getElem?_eq_some_iff.mp hnext
    obtain ⟨-, rfl⟩ := List.getElem?_eq_some_iff.mp he
    exact hlinked k hk
  intro n
  induction n with
  | zero =>
    intro later hlater _
    rw [hlink i exchange later hi hlater]
    exact (hfaithful exchange (List.mem_of_getElem? hi)).writes path content hwrite
  | succ n ih =>
    intro later hlater huntouched
    obtain ⟨hlength, -⟩ := List.getElem?_eq_some_iff.mp hlater
    have hprevious : exchanges[i + 1 + n]? = some (exchanges[i + 1 + n]) :=
      List.getElem?_eq_getElem (by omega)
    have hbefore := ih _ hprevious fun k e hik hkn => huntouched k e hik (by omega)
    obtain ⟨hwrites, houtside⟩ := huntouched _ _ (by omega) (by omega) hprevious
    have hnormal : asPosix (posixParts path) = path := by
      obtain ⟨_, _, -, -, hchosen, -⟩ := hwrite
      exact chosenMember_normal hchosen
    have hkept := (hfaithful _ (List.mem_of_getElem? hprevious)).keepsFile hnormal
      (by simp [hbefore]) hwrites houtside
    rw [hlink _ _ later hprevious hlater, hkept, hbefore]

/-- A read delivers what the last write of its path has written. -/
lemma read_of_write {exchanges : List ToolExchange} {path content : String}
    {exchange later : ToolExchange} {i j : Nat} (hfaithful : ∀ e ∈ exchanges, e.Faithful)
    (hlinked : exchanges.IsChain fun e next => next.before = e.after) (hij : i < j)
    (hi : exchanges[i]? = some exchange) (hj : exchanges[j]? = some later)
    (hwrite : exchange.Writes path content) (hread : later.Reads path)
    (huntouched : Untouched exchanges path i j) :
    later.output.text = if content = "" then "<empty>" else content := by
  obtain ⟨n, rfl⟩ : ∃ n, j = i + 1 + n := ⟨j - (i + 1), by omega⟩
  have hbefore := file_before hfaithful hlinked hi hwrite n later hj huntouched
  obtain ⟨bytes, mine, links, text, hfile, htext, houtput⟩ :=
    (hfaithful later (List.mem_of_getElem? hj)).reads path hread
  rw [hbefore, Option.some.injEq, WorkspaceNode.file.injEq] at hfile
  obtain ⟨rfl, -, -⟩ := hfile
  rw [fromUTF8?_toUTF8, Option.some.injEq] at htext
  rw [houtput, htext]

end Files

/-! ### What the parts of a pass leave alone -/

/-- Nothing has been sent, answered or refused. -/
structure SameLog (d d' : AdapterDesk) : Prop where
  exchanges : d'.exchanges = d.exchanges
  sent : d'.sent = d.sent
  offered : d'.offered = d.offered
  refused : d'.refused = d.refused

lemma SameLog.trans {d d' d'' : AdapterDesk} (h : SameLog d d') (h' : SameLog d' d'') :
    SameLog d d'' where
  exchanges := h'.exchanges.trans h.exchanges
  sent := h'.sent.trans h.sent
  offered := h'.offered.trans h.offered
  refused := h'.refused.trans h.refused

/-- Only the run and its clock have moved. -/
def OnlyRun (d d' : AdapterDesk) : Prop := SameLog d d' ∧ d'.workspace = d.workspace

instance : Std.Refl OnlyRun := ⟨fun _ => ⟨⟨rfl, rfl, rfl, rfl⟩, rfl⟩⟩

instance : IsTrans AdapterDesk OnlyRun :=
  ⟨fun _ _ _ h h' => ⟨h.1.trans h'.1, h'.2.trans h.2⟩⟩

variable {adapter : ResponsesParticipantAdapter} {view : ParticipantView}

section Passes

variable {α : Type} {d d' : AdapterDesk}

lemma moves_inRun (p : Process RunDesk AdapterError α) : Moves OnlyRun (inRun p) :=
  fun _ => ⟨⟨rfl, rfl, rfl, rfl⟩, rfl⟩

lemma moves_ofJournal (p : RunProcess α) : Moves OnlyRun (ofJournal p) := moves_inRun _

lemma onlyRun_of_moves {p : AdapterProcess α} (hp : Moves OnlyRun p) {x : Except AdapterError α}
    (h : p.exec d = (x, d')) : OnlyRun d d' := by
  have hd := hp d
  rwa [h] at hd

variable [TextRuntime] {requestId : Identifier} {request : ItemizedRequest}

/-- A request either does not leave, being too long or refused, or is kept. -/
lemma exec_sendRequest {x : Except AdapterError DecodedResult}
    (h : (adapter.sendRequest requestId request).exec d = (x, d')) :
    (x.isOk = false ∧ SameLog d d' ∧
      MAX_PROVIDER_TRANSCRIPT_REQUEST_BYTES < request.wireBody.length) ∨
    (x.isOk = false ∧ SameLog { d with refused := true } d') ∨
    (request.wireBody.length ≤ MAX_PROVIDER_TRANSCRIPT_REQUEST_BYTES ∧
      OnlyRun { d with sent := d.sent ++ [request] } d') := by
  simp only [ResponsesParticipantAdapter.sendRequest, request.length_toResponsesRequest] at h
  by_cases hlong : MAX_PROVIDER_TRANSCRIPT_REQUEST_BYTES < request.wireBody.length
  · rw [raiseIf, if_pos hlong, exec_bind_error (exec_ofExcept _ d)] at h
    cases h
    exact Or.inl ⟨rfl, ⟨rfl, rfl, rfl, rfl⟩, hlong⟩
  · rw [raiseIf, if_neg hlong, exec_bind_ok (exec_ofExcept _ d)] at h
    right
    obtain ⟨y, d₁, hreserve⟩ : ∃ y d₁,
        (inRun (adapter.sender.reserve requestId request)).exec d = (y, d₁) := ⟨_, _, rfl⟩
    have hsame := onlyRun_of_moves (moves_inRun _) hreserve
    cases y with
    | error e =>
      left
      have hraised : (onRaise (inRun (adapter.sender.reserve requestId request)) fun _ =>
          alter fun d : AdapterDesk => { d with refused := true }).exec d =
          (.error e, { d₁ with refused := true }) := by
        rw [onRaise, exec_tryCatch_error hreserve]
        rfl
      rw [exec_bind_error hraised] at h
      cases h
      exact ⟨rfl, hsame.1.exchanges, hsame.1.sent, hsame.1.offered, rfl⟩
    | ok u =>
      right
      refine ⟨not_lt.mp hlong, ?_⟩
      rw [exec_bind_ok (exec_onRaise_ok hreserve), exec_bind_ok (exec_alter _ d₁)] at h
      have hrest : Moves OnlyRun (do
          let raw ← inRun (adapter.sender.exchange request)
          let result ← Process.ofExcept ((decodeResult raw).mapError fun _ => AdapterError.other)
          Process.ofExcept ((validateToolCalls request.toResponsesRequest result).mapError
            fun _ => AdapterError.other)
          inRun (adapter.sender.received raw result)
          return result : AdapterProcess DecodedResult) :=
        (moves_inRun _).bind fun raw => (moves_ofExcept _).bind fun result =>
          (moves_ofExcept _).bind fun _ => (moves_inRun _).bind fun _ => moves_pure _
      have hmoved := onlyRun_of_moves hrest h
      refine ⟨⟨?_, ?_, ?_, ?_⟩, ?_⟩
      · exact hmoved.1.exchanges.trans hsame.1.exchanges
      · exact hmoved.1.sent.trans (congrArg (· ++ [request]) hsame.1.sent)
      · exact hmoved.1.offered.trans hsame.1.offered
      · exact hmoved.1.refused.trans hsame.1.refused
      · exact hmoved.2.trans hsame.2

/-- A tool has answered `call` and the exchange is kept. -/
structure Answered (d : AdapterDesk) (call : FunctionCall) (output : ParticipantToolOutput)
    (d' : AdapterDesk) : Prop where
  grown : ∃ exchange, d'.exchanges = d.exchanges ++ [exchange] ∧ exchange.callId = call.callId ∧
    exchange.name = call.name ∧ exchange.arguments = call.arguments ∧ exchange.output = output ∧
    exchange.before = d.workspace ∧ exchange.after = d'.workspace ∧ exchange.Faithful
  arguments_bound : call.arguments.IsBounded 1000000
  name_valid : IsToolName call.name
  sent : d'.sent = d.sent
  offered : d'.offered = d'.run.events
  refused : d'.refused = d.refused

variable {call : FunctionCall}

lemma exec_answerCall {tool : ParticipantTool}
    {x : Except AdapterError ParticipantToolOutput}
    (hname : PyStr.ofString tool.definition.name = call.name)
    (h : (adapter.answerCall view requestId tool call).exec d = (x, d')) :
    (x.isOk = false ∧ SameLog d d') ∨ ∃ output, x = .ok output ∧ Answered d call output d' := by
  rw [ResponsesParticipantAdapter.answerCall, exec_bind_ok (exec_currentWorkspace d)] at h
  obtain ⟨y, d₁, hrequest⟩ : ∃ y d₁, (ofJournal
    (adapter.recordToolRequest requestId tool.definition.name)).exec d = (y, d₁) := ⟨_, _, rfl⟩
  have hsame₁ := onlyRun_of_moves (moves_ofJournal _) hrequest
  cases y with
  | error e =>
    rw [exec_bind_error hrequest] at h
    cases h
    exact Or.inl ⟨rfl, hsame₁.1⟩
  | ok interactionId =>
    rw [exec_bind_ok hrequest] at h
    obtain ⟨z, d₂, hinvoke⟩ : ∃ z d₂,
        (inWorld (tool.invoke adapter.disk call.arguments view)).exec d₁ =
      (z, d₂) := ⟨_, _, rfl⟩
    have hlog₂ : SameLog d₁ d₂ := by
      cases hinvoke
      exact ⟨rfl, rfl, rfl, rfl⟩
    cases z with
    | error e =>
      rw [exec_bind_error hinvoke] at h
      cases h
      exact Or.inl ⟨rfl, hsame₁.1.trans hlog₂⟩
    | ok output =>
      rw [exec_bind_ok hinvoke] at h
      obtain ⟨v, d₃, hresult⟩ : ∃ v d₃, (ofJournal (adapter.recordToolResult interactionId
        tool.definition.name ⟨output.artifactRefs, output.refs_sorted⟩)).exec d₂ = (v, d₃) :=
        ⟨_, _, rfl⟩
      have hsame₃ := onlyRun_of_moves (moves_ofJournal _) hresult
      have hlog₃ := (hsame₁.1.trans hlog₂).trans hsame₃.1
      cases v with
      | error e =>
        rw [exec_bind_error hresult] at h
        cases h
        exact Or.inl ⟨rfl, hlog₃⟩
      | ok u =>
        rw [exec_bind_ok hresult, exec_bind_ok (exec_alter _ d₃)] at h
        cases h
        simp only [exec, inWorld, Prod.mk.injEq] at hinvoke
        have hinvoked : (tool.invoke adapter.disk call.arguments view).exec d₁.toToolWorld =
            (.ok output, d₂.toToolWorld) :=
          Prod.ext hinvoke.1 (congrArg AdapterDesk.toToolWorld hinvoke.2)
        refine Or.inr ⟨output, rfl,
          ⟨_, congrArg (· ++ _) hlog₃.exchanges, rfl, hname, rfl, rfl, rfl, rfl,
          ?_⟩, arguments_isBounded_of_invoke hinvoked, hname ▸ tool.definition.name_valid,
          hlog₃.sent,
          rfl, hlog₃.refused⟩
        exact faithful_of_invoke hinvoked hsame₁.2.symm hsame₃.2

/-- How a pass may end that has built `request`. -/
inductive Conversed (request : ItemizedRequest) (d : AdapterDesk) :
    Except AdapterError (ParticipantIntent ⊕ FunctionCall × ParticipantToolOutput) →
      AdapterDesk → Prop
  | tooLong {e d'} (log : SameLog d d')
      (long : MAX_PROVIDER_TRANSCRIPT_REQUEST_BYTES < request.wireBody.length) :
      Conversed request d (.error e) d'
  | refused {e d'} (log : SameLog { d with refused := true } d') : Conversed request d (.error e) d'
  | raised {e d'} (short : request.wireBody.length ≤ MAX_PROVIDER_TRANSCRIPT_REQUEST_BYTES)
      (log : SameLog { d with sent := d.sent ++ [request] } d') : Conversed request d (.error e) d'
  | intent {intent d'} (short : request.wireBody.length ≤ MAX_PROVIDER_TRANSCRIPT_REQUEST_BYTES)
      (log : SameLog { d with sent := d.sent ++ [request] } d') :
      Conversed request d (.ok (.inl intent)) d'
  | answered {call output d'}
      (short : request.wireBody.length ≤ MAX_PROVIDER_TRANSCRIPT_REQUEST_BYTES)
      (answer : Answered { d with sent := d.sent ++ [request] } call output d') :
      Conversed request d (.ok (.inr (call, output))) d'

lemma moves_commitIntent : Moves OnlyRun (adapter.commitIntent requestId call) :=
  (moves_ofJournal _).bind fun _ => (moves_ofExcept _).bind fun _ =>
    (moves_ofJournal _).bind fun _ => moves_pure _

omit [TextRuntime] in
lemma toolNamed_eq_some {name : PyStr} {tool : ParticipantTool}
    (h : adapter.toolNamed name = .ok (some tool)) :
    PyStr.ofString tool.definition.name = name := by
  unfold ResponsesParticipantAdapter.toolNamed at h
  split_ifs at h with hintent
  · cases h
  · split at h
    · next hfind =>
      cases h
      simpa using List.find?_some hfind
    · cases h

lemma Answered.of_onlyRun {d₀ d₁ d₂ : AdapterDesk}
    {output : ParticipantToolOutput} (h : OnlyRun d₀ d₁) (h' : Answered d₁ call output d₂) :
    Answered d₀ call output d₂ := by
  obtain ⟨exchange, hgrown, hid, hname, hargs, hout, hbefore, hafter, hfaithful⟩ := h'.grown
  exact {
    grown := ⟨exchange, by rw [hgrown, h.1.exchanges], hid, hname, hargs, hout, hbefore.trans h.2,
      hafter, hfaithful⟩
    arguments_bound := h'.arguments_bound
    name_valid := h'.name_valid
    sent := h'.sent.trans h.1.sent
    offered := h'.offered
    refused := h'.refused.trans h.1.refused }

/-- A pass that has built a request, step by step. -/
lemma conversed {x : Except AdapterError (ParticipantIntent ⊕ FunctionCall × ParticipantToolOutput)}
    (h : (adapter.converse view requestId request).exec d = (x, d')) :
    Conversed request d x d' := by
  rw [ResponsesParticipantAdapter.converse] at h
  obtain ⟨y, d₁, hsend⟩ : ∃ y d₁, (adapter.sendRequest requestId request).exec d = (y, d₁) :=
    ⟨_, _, rfl⟩
  cases y with
  | error e =>
    rw [exec_bind_error hsend] at h
    cases h
    rcases exec_sendRequest hsend with ⟨-, hlog, hlong⟩ | ⟨-, hlog⟩ | ⟨hshort, hlog, -⟩
    · exact .tooLong hlog hlong
    · exact .refused hlog
    · exact .raised hshort hlog
  | ok result =>
    obtain ⟨hshort, hsent⟩ : request.wireBody.length ≤ MAX_PROVIDER_TRANSCRIPT_REQUEST_BYTES ∧
        OnlyRun { d with sent := d.sent ++ [request] } d₁ := by
      rcases exec_sendRequest hsend with ⟨herror, -⟩ | ⟨herror, -⟩ | hsent
      · cases herror
      · cases herror
      · exact hsent
    rw [exec_bind_ok hsend] at h
    -- three checks stand between the answer and its tool
    have hchecked : ∀ {β : Type} (check : Except AdapterError β)
        (rest : β → AdapterProcess (ParticipantIntent ⊕ FunctionCall × ParticipantToolOutput)),
        (∀ b, check = .ok b → ∀ x d', (rest b).exec d₁ = (x, d') → Conversed request d x d') →
        ∀ x d', (Process.ofExcept check >>= rest).exec d₁ = (x, d') → Conversed request d x d' := by
      intro β check rest hrest x d' h
      cases check with
      | error e =>
        rw [exec_bind_error (exec_ofExcept _ d₁)] at h
        cases h
        exact .raised hshort hsent.1
      | ok b =>
        rw [exec_bind_ok (exec_ofExcept _ d₁)] at h
        exact hrest b rfl x d' h
    refine hchecked _ _ (fun _ _ => hchecked _ _ fun _ _ => hchecked _ _ fun call _ =>
      hchecked _ _ fun tool htool => ?_) x d' h
    intro x d' h
    cases tool with
    | none =>
      obtain ⟨z, d₂, hcommit⟩ : ∃ z d₂, (adapter.commitIntent requestId call).exec d₁ = (z, d₂) :=
        ⟨_, _, rfl⟩
      have hlog := hsent.1.trans (onlyRun_of_moves moves_commitIntent hcommit).1
      cases z with
      | error e =>
        rw [exec_bind_error hcommit] at h
        cases h
        exact .raised hshort hlog
      | ok intent =>
        rw [exec_bind_ok hcommit] at h
        cases h
        exact .intent hshort hlog
    | some tool =>
      obtain ⟨z, d₂, hanswer⟩ : ∃ z d₂,
        (adapter.answerCall view requestId tool call).exec d₁ = (z, d₂) := ⟨_, _, rfl⟩
      rcases exec_answerCall (toolNamed_eq_some htool) hanswer with
        ⟨herror, hlog⟩ | ⟨output, rfl, hkept⟩
      · cases z with
        | error e =>
          rw [exec_bind_error hanswer] at h
          cases h
          exact .raised hshort (hsent.1.trans hlog)
        | ok output => cases herror
      · rw [exec_bind_ok hanswer] at h
        cases h
        exact .answered hshort (hkept.of_onlyRun hsent)

end Passes

/-! ### Requests -/

lemma ToolExchange.Replayed.unique {exchange : ToolExchange} {answered answered' : AnsweredCall}
    (h : exchange.Replayed answered) (h' : exchange.Replayed answered') : answered = answered' := by
  obtain ⟨⟨callId, name, arguments, hid, harg, hname⟩, ⟨callId', output, hid', hout⟩, hsame⟩ :=
    answered
  obtain ⟨⟨callId₁, name₁, arguments₁, _, _, _⟩, ⟨callId₁', output₁, _, _⟩, hsame₁⟩ := answered'
  obtain ⟨rfl, rfl, rfl, rfl⟩ := h
  obtain ⟨rfl, rfl, rfl, rfl⟩ := h'
  obtain rfl : callId' = _ := hsame
  obtain rfl : callId₁' = _ := hsame₁
  rfl

namespace ResponsesParticipantAdapter

variable [ViewText] (adapter : ResponsesParticipantAdapter) (view : ParticipantView)

/-- The items after some exchanges: the instruction, the view, and each call directly followed by
its output. -/
def Continues (exchanges : List ToolExchange) (inputs : List ResponseInput) : Prop :=
  ∃ developer user answered, inputs = .message developer :: .message user ::
      answered.flatMap AnsweredCall.items ∧
    developer.role = .developer ∧ developer.content = PyStr.ofString adapter.instruction ∧
    user.role = .user ∧ user.content = PyStr.ofString (ViewText.viewText view) ∧
    List.Forall₂ ToolExchange.Replayed exchanges answered

/-- The request after some exchanges. -/
structure Presents (exchanges : List ToolExchange) (request : ItemizedRequest) : Prop where
  model : request.model = adapter.requestedModelRoute
  inputs : adapter.Continues view exchanges request.inputs
  tools : request.tools = adapter.toolDefinitions
  reasoningEffort : request.reasoningEffort = adapter.reasoningEffort
  serviceTier : request.serviceTier = adapter.serviceTier
  toolChoiceRequired : request.toolChoiceRequired = true
  tokenClaim : request.tokenClaim = adapter.tokenClaim

/-- The bounds of a request after some exchanges. -/
structure Fits (exchanges : List ToolExchange) : Prop where
  view_bound : (PyStr.ofString (ViewText.viewText view)).IsBounded 1000000
  callIds_bound : ∀ exchange ∈ exchanges, exchange.callId.IsBounded 256
  defaults : ProviderDefaultsFit adapter.requestedModelRoute adapter.reasoningEffort
    adapter.serviceTier
  body_bound : ∀ request, adapter.Presents view exchanges request →
    request.wireBody.length ≤ MAX_PROVIDER_TRANSCRIPT_REQUEST_BYTES

/-- The budgets of the session admit another request of the run. -/
def AdmitsAnother (events : List RunEvent) : Prop :=
  ∃ state, replay adapter.journal.header adapter.journal.task events = .ok state ∧
    toolRequestCount events < adapter.session.resources.maxToolCalls ∧
    EdaGym.requireRequestBudget adapter.session state adapter.tokenClaim = .ok ⟨⟩

end ResponsesParticipantAdapter

variable [ViewText]

/-- What is presented is determined by the exchanges. -/
lemma continues_unique {exchanges : List ToolExchange} {inputs inputs' : List ResponseInput}
    (h : adapter.Continues view exchanges inputs) (h' : adapter.Continues view exchanges inputs') :
    inputs = inputs' := by
  obtain ⟨⟨_, _, _⟩, ⟨_, _, _⟩, answered, rfl, rfl, rfl, rfl, rfl, hforall⟩ := h
  obtain ⟨⟨_, _, _⟩, ⟨_, _, _⟩, answered', rfl, rfl, rfl, rfl, rfl, hforall'⟩ := h'
  have hanswered : answered = answered' := by
    clear * - hforall hforall'
    induction hforall generalizing answered' with
    | nil =>
      cases hforall'
      rfl
    | cons hfirst _ ih =>
      cases hforall' with
      | cons hfirst' hrest' => rw [hfirst.unique hfirst', ih _ hrest']
  rw [hanswered]

lemma presents_unique {exchanges : List ToolExchange} {request request' : ItemizedRequest}
    (h : adapter.Presents view exchanges request) (h' : adapter.Presents view exchanges request') :
    request = request' := by
  have hinputs := continues_unique h.inputs h'.inputs
  obtain ⟨⟩ := request
  obtain ⟨⟩ := request'
  obtain ⟨rfl, -, rfl, rfl, rfl, rfl, rfl⟩ := h
  obtain ⟨rfl, -, rfl, rfl, rfl, rfl, rfl⟩ := h'
  cases hinputs
  rfl

/-! ### The budgets of a pass -/

omit [ViewText] in
lemma exec_requireToolBudget (d : AdapterDesk) :
    (adapter.requireToolBudget.exec d).2 = d ∧ ((adapter.requireToolBudget.exec d).1 = .ok ⟨⟩ ↔
      (∃ state, replay adapter.journal.header adapter.journal.task d.run.events = .ok state) ∧
        toolRequestCount d.run.events < adapter.session.resources.maxToolCalls) := by
  have hread : (ofJournal adapter.journal.readEvents).exec d =
      ((((replay adapter.journal.header adapter.journal.task d.run.events).mapError
        RunError.ofJournal).map fun _ => d.run.events).mapError _, d) := rfl
  cases hreplay : replay adapter.journal.header adapter.journal.task d.run.events with
  | error e =>
    rw [hreplay] at hread
    rw [ResponsesParticipantAdapter.requireToolBudget, exec_bind_error hread]
    simp
  | ok state =>
    rw [hreplay] at hread
    rw [ResponsesParticipantAdapter.requireToolBudget, exec_bind_ok hread, exec_ofExcept]
    simp

omit [ViewText] in
lemma exec_requireRequestBudget (d : AdapterDesk) :
    (adapter.requireRequestBudget.exec d).2 = d ∧
      ((adapter.requireRequestBudget.exec d).1 = .ok ⟨⟩ ↔
      ∃ state, replay adapter.journal.header adapter.journal.task d.run.events = .ok state ∧
        requireRequestBudget adapter.session state adapter.tokenClaim = .ok ⟨⟩) := by
  have hread : (ofJournal adapter.journal.state).exec d =
      (((replay adapter.journal.header adapter.journal.task d.run.events).mapError
        RunError.ofJournal).mapError _, d) := rfl
  cases hreplay : replay adapter.journal.header adapter.journal.task d.run.events with
  | error e =>
    rw [hreplay] at hread
    rw [ResponsesParticipantAdapter.requireRequestBudget, exec_bind_error hread]
    simp
  | ok state =>
    rw [hreplay] at hread
    rw [ResponsesParticipantAdapter.requireRequestBudget, exec_bind_ok hread, exec_ofExcept]
    simp [Except.mapError_eq_ok_iff]

/-! ### The invariant of the loop -/

namespace ResponsesParticipantAdapter

variable [TextRuntime] (adapter : ResponsesParticipantAdapter) (view : ParticipantView)

/-- What has been said so far. -/
structure Talked (d : AdapterDesk) : Prop where
  presented : ∀ i request, d.sent[i]? = some request →
    adapter.Presents view (d.exchanges.take i) request ∧
      request.wireBody.length ≤ MAX_PROVIDER_TRANSCRIPT_REQUEST_BYTES ∧
      ProviderDefaultsFit adapter.requestedModelRoute adapter.reasoningEffort adapter.serviceTier
  faithful : ∀ exchange ∈ d.exchanges, exchange.Faithful
  linked : d.exchanges.IsChain fun exchange next => next.before = exchange.after

/-- Between two passes every request has its exchange. -/
structure Conversing (inputs : List ResponseInput) (d : AdapterDesk) : Prop
    extends adapter.Talked view d where
  paired : d.sent.length = d.exchanges.length
  offered : d.offered = d.run.events
  last : ∀ exchange ∈ d.exchanges.getLast?, exchange.after = d.workspace
  not_refused : d.refused = false
  continues : adapter.Continues view d.exchanges inputs

/-- What may keep the next request from leaving. -/
def Hindered (d : AdapterDesk) : Prop :=
  d.refused = true ∨ adapter.maximumRequestsPerAction ≤ d.exchanges.length ∨
    ¬ adapter.AdmitsAnother d.offered ∨ ¬ (d.exchanges.map ToolExchange.callId).Nodup ∨
    ¬ adapter.Fits view d.exchanges

structure Ended (d : AdapterDesk) : Prop extends adapter.Talked view d where
  counts : d.sent.length = d.exchanges.length + 1 ∨
    (d.sent.length = d.exchanges.length ∧ adapter.Hindered view d)

end ResponsesParticipantAdapter

section Loop

variable [TextRuntime] {d d' : AdapterDesk}

lemma Talked.of_sameLog (h : adapter.Talked view d) (hlog : SameLog d d') :
    adapter.Talked view d' where
  presented := by
    rw [hlog.exchanges, hlog.sent]
    exact h.presented
  faithful := by
    rw [hlog.exchanges]
    exact h.faithful
  linked := by
    rw [hlog.exchanges]
    exact h.linked

omit [TextRuntime] in
lemma Hindered.of_sameLog (h : adapter.Hindered view d) (hlog : SameLog d d') :
    adapter.Hindered view d' := by
  rw [ResponsesParticipantAdapter.Hindered, hlog.exchanges, hlog.offered, hlog.refused]
  exact h

variable {inputs : List ResponseInput} {exchanges : List ToolExchange}

omit [TextRuntime] in
lemma Continues.fits_items
    (h : adapter.Continues view exchanges inputs) :
    (PyStr.ofString (ViewText.viewText view)).IsBounded 1000000 ∧
      ∀ exchange ∈ exchanges, exchange.callId.IsBounded 256 := by
  obtain ⟨developer, user, answered, -, -, -, -, huser, hforall⟩ := h
  refine ⟨huser ▸ user.content_bound, ?_⟩
  clear huser
  induction hforall with
  | nil => simp
  | @cons exchange answered _ _ hfirst _ ih =>
    rw [List.forall_mem_cons, ← hfirst.callId]
    exact ⟨answered.call.callId_bound, ih⟩

omit [ViewText] [TextRuntime] in
lemma answered_callIds {answered : List AnsweredCall}
    (h : List.Forall₂ ToolExchange.Replayed exchanges answered) :
    answered.map AnsweredCall.callId = exchanges.map ToolExchange.callId := by
  induction h with
  | nil => rfl
  | cons hfirst _ ih => rw [List.map_cons, List.map_cons, ih, AnsweredCall.callId, hfirst.callId]

section

omit [TextRuntime]

/-- The request of a pass can be built unless two calls have one identifier or the configuration of
the provider is invalid. -/
lemma request_of_continues
    (h : adapter.Continues view exchanges inputs) :
    (∃ request, responsesRequest adapter.requestedModelRoute inputs adapter.toolDefinitions
        adapter.reasoningEffort adapter.serviceTier true adapter.tokenClaim = .ok request ∧
      adapter.Presents view exchanges request ∧
      ProviderDefaultsFit adapter.requestedModelRoute adapter.reasoningEffort adapter.serviceTier) ∨
    (∃ e, responsesRequest adapter.requestedModelRoute inputs adapter.toolDefinitions
        adapter.reasoningEffort adapter.serviceTier true adapter.tokenClaim = .error e) ∧
      (¬ (exchanges.map ToolExchange.callId).Nodup ∨
        ¬ ProviderDefaultsFit adapter.requestedModelRoute adapter.reasoningEffort
          adapter.serviceTier) := by
  have hcontinues := h
  obtain ⟨developer, user, answered, rfl, -, -, -, -, hforall⟩ := h
  have htools : adapter.toolDefinitions ≠ [] := List.cons_ne_nil _ _
  cases hrequest : responsesRequest adapter.requestedModelRoute
      (.message developer :: .message user :: answered.flatMap AnsweredCall.items)
      adapter.toolDefinitions adapter.reasoningEffort adapter.serviceTier true
        adapter.tokenClaim with
  | ok request =>
    left
    obtain ⟨-, hdefaults, rfl⟩ :=
      (responsesRequest_eq_ok htools adapter.names_nodup).mp hrequest
    exact ⟨_, rfl, ⟨rfl, hcontinues, rfl, rfl, rfl, rfl, rfl⟩, hdefaults⟩
  | error e =>
    right
    refine ⟨⟨e, rfl⟩, ?_⟩
    by_contra hnot
    push Not at hnot
    have hnodup : (answered.map AnsweredCall.callId).Nodup := by
      rw [answered_callIds hforall]
      exact hnot.1
    have hok := hrequest.symm.trans
      ((responsesRequest_eq_ok htools adapter.names_nodup).mpr ⟨hnodup, hnot.2, rfl⟩)
    cases hok

/-- An answered call extends the conversation unless its identifier is out of bounds. -/
lemma extendInputs_of_continues
    {exchange : ToolExchange} {call : FunctionCall} {output : ParticipantToolOutput}
    (h : adapter.Continues view exchanges inputs) (hid : exchange.callId = call.callId)
    (hname : exchange.name = call.name) (hargs : exchange.arguments = call.arguments)
    (hout : exchange.output = output) (hbound : call.arguments.IsBounded 1000000)
    (hvalid : IsToolName call.name) :
    (∃ inputs', ResponsesParticipantAdapter.extendInputs inputs call output = .ok inputs' ∧
      adapter.Continues view (exchanges ++ [exchange]) inputs') ∨
    (∃ e, ResponsesParticipantAdapter.extendInputs inputs call output = .error e) ∧
      ¬ exchange.callId.IsBounded 256 := by
  obtain ⟨developer, user, answered, rfl, hdev, hdevText, huser, huserText, hforall⟩ := h
  by_cases hcall : call.callId.IsBounded 256
  · left
    have hitem : functionCallInput call.callId call.name call.arguments =
        .ok ⟨call.callId, call.name, call.arguments, hcall, hbound, hvalid⟩ :=
      functionCallInput_eq_ok.mpr ⟨rfl, rfl, rfl⟩
    have hanswer : functionCallOutput call.callId (PyStr.ofString output.text) =
        .ok ⟨call.callId, PyStr.ofString output.text, hcall, output.isBounded⟩ :=
      functionCallOutput_eq_ok.mpr ⟨rfl, rfl⟩
    let entry : AnsweredCall :=
      ⟨⟨call.callId, call.name, call.arguments, hcall, hbound, hvalid⟩,
        ⟨call.callId, PyStr.ofString output.text, hcall, output.isBounded⟩, rfl⟩
    rw [ResponsesParticipantAdapter.extendInputs, hitem, hanswer]
    refine ⟨_, rfl, developer, user, answered ++ [entry], ?_, hdev, hdevText, huser, huserText, ?_⟩
    · rw [List.flatMap_append, List.flatMap_singleton]
      rfl
    · exact List.rel_append hforall (.cons ⟨hid.symm, hname.symm, hargs.symm, hout ▸ rfl⟩ .nil)
  · right
    have hitem : functionCallInput call.callId call.name call.arguments =
        .error "function call input requires a bounded call identifier" := dif_neg hcall
    rw [ResponsesParticipantAdapter.extendInputs, hitem, hid]
    exact ⟨⟨_, rfl⟩, hcall⟩

/-- The next request leaves, and is kept. -/
lemma presented_concat {request : ItemizedRequest}
    {sent : List ItemizedRequest} {P : ItemizedRequest → Prop}
    (hpaired : sent.length = exchanges.length)
    (h : ∀ i earlier, sent[i]? = some earlier →
      adapter.Presents view (exchanges.take i) earlier ∧ P earlier)
    (hrequest : adapter.Presents view exchanges request) (hP : P request) :
    ∀ i earlier, (sent ++ [request])[i]? = some earlier →
      adapter.Presents view (exchanges.take i) earlier ∧ P earlier := by
  intro i earlier hi
  rcases lt_trichotomy i sent.length with hlt | rfl | hgt
  · rw [List.getElem?_append_left hlt] at hi
    exact h i earlier hi
  · rw [List.getElem?_concat_length, Option.some.injEq] at hi
    subst hi
    rw [hpaired, List.take_length]
    exact ⟨hrequest, hP⟩
  · rw [List.getElem?_eq_none (by rw [List.length_append, List.length_singleton]; omega)] at hi
    cases hi

end

omit [ViewText] [TextRuntime] in
/-- The two checks of a pass let it through exactly when the budgets admit another request. -/
lemma exec_budgets {α : Type} (rest : AdapterProcess α) :
    (adapter.AdmitsAnother d.run.events ∧ (do
      adapter.requireToolBudget
      adapter.requireRequestBudget
      rest).exec d = rest.exec d) ∨
    (¬ adapter.AdmitsAnother d.run.events ∧ ∃ e, (do
      adapter.requireToolBudget
      adapter.requireRequestBudget
      rest).exec d = (.error e, d)) := by
  obtain ⟨hsame₁, htool⟩ := @exec_requireToolBudget _ adapter d
  obtain ⟨hsame₂, hrequests⟩ := @exec_requireRequestBudget _ adapter d
  cases hx : (adapter.requireToolBudget.exec d).1 with
  | error e =>
    right
    rw [hx] at htool
    refine ⟨?_, e, exec_bind_error (Prod.ext hx hsame₁)⟩
    rintro ⟨state, hstate, hcount, -⟩
    cases htool.mpr ⟨⟨state, hstate⟩, hcount⟩
  | ok u =>
    rw [exec_bind_ok (Prod.ext hx hsame₁)]
    obtain ⟨-, hcount⟩ := htool.mp hx
    cases hy : (adapter.requireRequestBudget.exec d).1 with
    | error e =>
      right
      rw [hy] at hrequests
      refine ⟨?_, e, exec_bind_error (Prod.ext hy hsame₂)⟩
      rintro ⟨state, hstate, -, hbudget⟩
      cases hrequests.mpr ⟨state, hstate, hbudget⟩
    | ok u =>
      left
      rw [exec_bind_ok (Prod.ext hy hsame₂)]
      obtain ⟨state, hstate, hbudget⟩ := hrequests.mp hy
      exact ⟨⟨state, hstate, hcount, hbudget⟩, rfl⟩

/-- A pass that stops before its request has left. -/
lemma Conversing.stopped (h : adapter.Conversing view inputs d)
    (hlog : SameLog d d') (hhindered : adapter.Hindered view d') : adapter.Ended view d' where
  toTalked := Talked.of_sameLog h.toTalked hlog
  counts := by
    rw [hlog.sent, hlog.exchanges]
    exact Or.inr ⟨h.paired, hhindered⟩

/-- A pass that stops after its request has left. -/
lemma Conversing.unanswered {request : ItemizedRequest}
    (h : adapter.Conversing view inputs d) (hpresents : adapter.Presents view d.exchanges request)
    (hshort : request.wireBody.length ≤ MAX_PROVIDER_TRANSCRIPT_REQUEST_BYTES)
    (hdefaults : ProviderDefaultsFit adapter.requestedModelRoute adapter.reasoningEffort
      adapter.serviceTier)
    (hlog : SameLog { d with sent := d.sent ++ [request] } d') : adapter.Ended view d' where
  presented := by
    rw [hlog.sent, hlog.exchanges]
    exact presented_concat h.paired h.presented hpresents ⟨hshort, hdefaults⟩
  faithful := by
    rw [hlog.exchanges]
    exact h.faithful
  linked := by
    rw [hlog.exchanges]
    exact h.linked
  counts := by
    rw [hlog.sent, hlog.exchanges, List.length_append, h.paired]
    exact Or.inl rfl

/-- A pass whose exchange is complete. -/
lemma Conversing.talked_answered {request : ItemizedRequest}
    {call : FunctionCall} {output : ParticipantToolOutput}
    (h : adapter.Conversing view inputs d) (hpresents : adapter.Presents view d.exchanges request)
    (hshort : request.wireBody.length ≤ MAX_PROVIDER_TRANSCRIPT_REQUEST_BYTES)
    (hdefaults : ProviderDefaultsFit adapter.requestedModelRoute adapter.reasoningEffort
      adapter.serviceTier)
    (hanswer : Answered { d with sent := d.sent ++ [request] } call output d') :
    adapter.Talked view d' := by
  obtain ⟨exchange, hgrown, -, -, -, -, hbefore, -, hfaithful⟩ := hanswer.grown
  refine ⟨?_, ?_, ?_⟩
  · rw [hanswer.sent, hgrown]
    intro i earlier hi
    have hle : i ≤ d.exchanges.length := by
      obtain ⟨hlt, -⟩ := List.getElem?_eq_some_iff.mp hi
      have hpaired := h.paired
      rw [List.length_append, List.length_singleton] at hlt
      omega
    rw [List.take_append_of_le_length hle]
    exact presented_concat h.paired h.presented hpresents ⟨hshort, hdefaults⟩ i earlier hi
  · rw [hgrown]
    intro e he
    rcases List.mem_append.mp he with he | he
    · exact h.faithful e he
    · rw [List.mem_singleton.mp he]
      exact hfaithful
  · rw [hgrown]
    refine List.IsChain.append h.linked (List.isChain_singleton _) ?_
    intro last hlast next hnext
    obtain rfl : exchange = next := by simpa using hnext
    exact hbefore.trans (h.last last hlast).symm

/-- From between two passes the loop ends well, whatever is left of it. -/
lemma actionLoop_ended (n : Nat)
    (h : adapter.Conversing view inputs d)
    (hleft : d.exchanges.length + n = adapter.maximumRequestsPerAction) :
    adapter.Ended view ((adapter.actionLoop view n inputs).exec d).2 := by
  induction n generalizing inputs d with
  | zero => exact ⟨h.toTalked, Or.inr ⟨h.paired, Or.inr (Or.inl hleft.ge)⟩⟩
  | succ n ih =>
    have hrefl : SameLog d d := ⟨rfl, rfl, rfl, rfl⟩
    rw [ResponsesParticipantAdapter.actionLoop]
    rcases @exec_budgets _ adapter d _ _ with ⟨-, hexec⟩ | ⟨hadmits, e, hexec⟩
    case inr =>
      rw [hexec]
      rw [← h.offered] at hadmits
      exact Conversing.stopped h hrefl (Or.inr (Or.inr (Or.inl hadmits)))
    rw [hexec]
    obtain ⟨d₁, hask, hlog₁, hworkspace⟩ : ∃ d₁, (ofJournal (ask adapter.requestIdFactory)).exec d =
        (.ok (adapter.requestIdFactory d.run.tick), d₁) ∧ OnlyRun d d₁ :=
      ⟨_, rfl, ⟨rfl, rfl, rfl, rfl⟩, rfl⟩
    rw [exec_bind_ok hask]
    rcases request_of_continues h.continues with ⟨request, hrequest, hpresents, hdefaults⟩ |
      ⟨⟨e, hrequest⟩, hcause⟩
    case inr =>
      rw [hrequest, Except.mapError, exec_bind_error (exec_ofExcept _ d₁)]
      have hhindered : adapter.Hindered view d := by
        rcases hcause with hnodup | hdefaults
        · exact Or.inr (Or.inr (Or.inr (Or.inl hnodup)))
        · exact Or.inr (Or.inr (Or.inr (Or.inr fun hfits => hdefaults hfits.defaults)))
      exact Conversing.stopped h hlog₁ (Hindered.of_sameLog hhindered hlog₁)
    rw [hrequest, Except.mapError, exec_bind_ok (exec_ofExcept _ d₁)]
    obtain ⟨x, d₂, hconverse⟩ : ∃ x d₂, (adapter.converse view
      (adapter.requestIdFactory d.run.tick) request).exec d₁ = (x, d₂) := ⟨_, _, rfl⟩
    have hpass := conversed hconverse
    have hsent : SameLog { d with sent := d.sent ++ [request] }
        { d₁ with sent := d₁.sent ++ [request] } :=
      ⟨hlog₁.exchanges, congrArg (· ++ [request]) hlog₁.sent, hlog₁.offered, hlog₁.refused⟩
    have hraised : ∀ e, x = .error e → ((tryCatch (adapter.converse view
        (adapter.requestIdFactory d.run.tick) request) fun e =>
          throw (ResponsesParticipantAdapter.raiseAdapterError e)) : AdapterProcess _).exec d₁ =
        (.error (ResponsesParticipantAdapter.raiseAdapterError e), d₂) := by
      rintro e rfl
      rw [exec_tryCatch_error hconverse]
      rfl
    cases hpass with
    | tooLong hlog hlong =>
      rw [exec_bind_error (hraised _ rfl)]
      refine Conversing.stopped h (hlog₁.trans hlog) ?_
      refine Hindered.of_sameLog (d := d) ?_ (hlog₁.trans hlog)
      exact Or.inr (Or.inr (Or.inr (Or.inr fun hfits =>
        absurd (hfits.body_bound request hpresents) (not_le.mpr hlong))))
    | refused hlog =>
      rw [exec_bind_error (hraised _ rfl)]
      refine ⟨⟨?_, ?_, ?_⟩, Or.inr ⟨?_, Or.inl hlog.refused⟩⟩
      · rw [hlog.sent, hlog.exchanges, hlog₁.sent, hlog₁.exchanges]
        exact h.presented
      · rw [hlog.exchanges, hlog₁.exchanges]
        exact h.faithful
      · rw [hlog.exchanges, hlog₁.exchanges]
        exact h.linked
      · rw [hlog.sent, hlog.exchanges, hlog₁.sent, hlog₁.exchanges]
        exact h.paired
    | raised hshort hlog =>
      rw [exec_bind_error (hraised _ rfl)]
      exact Conversing.unanswered h hpresents hshort hdefaults (hsent.trans hlog)
    | intent hshort hlog =>
      rw [exec_bind_ok (exec_tryCatch_ok hconverse)]
      exact Conversing.unanswered h hpresents hshort hdefaults (hsent.trans hlog)
    | @answered call output _ hshort hanswer =>
      rw [exec_bind_ok (exec_tryCatch_ok hconverse)]
      have hanswer := hanswer.of_onlyRun ⟨hsent, hworkspace⟩
      have htalked := Conversing.talked_answered h hpresents hshort hdefaults hanswer
      obtain ⟨exchange, hgrown, hid, hname, hargs, hout, -, hafter, -⟩ := hanswer.grown
      have hpaired : d₂.sent.length = d₂.exchanges.length := by
        rw [hanswer.sent, hgrown, List.length_append, List.length_append, h.paired]
        rfl
      rcases extendInputs_of_continues h.continues hid hname hargs hout hanswer.arguments_bound
        hanswer.name_valid with ⟨inputs', hextend, hcontinues⟩ | ⟨⟨e, hextend⟩, hbound⟩
      · rw [exec_bind_ok (show (Process.ofExcept _ : AdapterProcess _).exec d₂ =
          (.ok inputs', d₂) by
          rw [hextend, exec_ofExcept])]
        apply ih
        · refine {
            toTalked := htalked, paired := hpaired, offered := hanswer.offered
            not_refused := hanswer.refused.trans h.not_refused
            continues := hgrown ▸ hcontinues
            last := ?_ }
          intro last hlast
          rw [hgrown, List.getLast?_concat, Option.mem_some_iff] at hlast
          exact hlast ▸ hafter
        · rw [hgrown, List.length_append, List.length_singleton]
          change d.exchanges.length + 1 + n = _
          omega
      · rw [exec_bind_error (show (Process.ofExcept _ : AdapterProcess _).exec d₂ =
          (.error e, d₂) by
          rw [hextend, exec_ofExcept])]
        refine ⟨htalked, Or.inr ⟨hpaired, Or.inr (Or.inr (Or.inr (Or.inr fun hfits => ?_)))⟩⟩
        exact hbound (hfits.callIds_bound exchange (by rw [hgrown]; exact List.mem_concat_self))

end Loop

/-! ### Whole actions -/

section Action

variable [TextRuntime] {world : ToolWorld} {d' : AdapterDesk}

lemma nextIntent_ended (hview : view.actorId = adapter.actorId ∧
    view.runId = adapter.journal.header.runId) :
    adapter.Ended view ((adapter.nextIntent view).exec (.start world)).2 := by
  have htalked : adapter.Talked view (.start world) :=
    ⟨fun i request hi => by simp [AdapterDesk.start] at hi, by simp [AdapterDesk.start],
      List.isChain_nil⟩
  have hmatch : ¬ (view.actorId ≠ adapter.actorId ∨ view.runId ≠ adapter.journal.header.runId) := by
    simp [hview.1, hview.2]
  have hinstruction : (PyStr.ofString adapter.instruction).IsBounded 1000000 :=
    PyStr.isBounded_of_size adapter.instruction_bound.1 adapter.instruction_bound.2
  have hdeveloper := inputMessage_eq_ok.mpr
    (show (InputMessage.mk .developer _ hinstruction).role = .developer ∧ _ from ⟨rfl, rfl⟩)
  rw [ResponsesParticipantAdapter.nextIntent, raiseIf, if_neg hmatch,
    exec_bind_ok (exec_ofExcept _ _), hdeveloper, Except.mapError, exec_bind_ok (exec_ofExcept _ _)]
  by_cases hbound : (PyStr.ofString (ViewText.viewText view)).IsBounded 1000000
  · have huser := inputMessage_eq_ok.mpr
      (show (InputMessage.mk .user _ hbound).role = .user ∧ _ from ⟨rfl, rfl⟩)
    rw [huser, Except.mapError, exec_bind_ok (exec_ofExcept _ _)]
    apply actionLoop_ended
    · exact {
        toTalked := htalked, paired := rfl, offered := rfl, not_refused := rfl
        last := by simp [AdapterDesk.start]
        continues := ⟨_, _, [], rfl, rfl, rfl, rfl, rfl, .nil⟩ }
    · exact Nat.zero_add _
  · have huser : inputMessage .user (PyStr.ofString (ViewText.viewText view)) =
        .error "validation error for InputMessage" := dif_neg hbound
    rw [huser, Except.mapError, exec_bind_error (exec_ofExcept _ _)]
    exact ⟨htalked, Or.inr ⟨rfl, Or.inr (Or.inr (Or.inr (Or.inr fun hfits =>
      hbound hfits.view_bound)))⟩⟩

omit [TextRuntime] in
/-- A request that has left was within the bounds. -/
lemma fits_of_presented {exchanges : List ToolExchange} {request : ItemizedRequest}
    (hpresents : adapter.Presents view exchanges request)
    (hshort : request.wireBody.length ≤ MAX_PROVIDER_TRANSCRIPT_REQUEST_BYTES)
    (hdefaults : ProviderDefaultsFit adapter.requestedModelRoute adapter.reasoningEffort
      adapter.serviceTier) : adapter.Fits view exchanges where
  view_bound := (Continues.fits_items hpresents.inputs).1
  callIds_bound := (Continues.fits_items hpresents.inputs).2
  defaults := hdefaults
  body_bound := by
    intro other hother
    rw [presents_unique hother hpresents]
    exact hshort

/-- Every request of an action presents the instruction, the view and the exchanges before it. Once
the exchanges so far are complete, with distinct calls, and the budgets admit another request, one
leaves exactly when it keeps the bounds of a request; and a read delivers what was written last. -/
theorem tool_results_reach_model (adapter : ResponsesParticipantAdapter) (view : ParticipantView)
    (world : ToolWorld) (x : Except AdapterError ParticipantIntent) (d' : AdapterDesk)
    (hview : view.actorId = adapter.actorId ∧ view.runId = adapter.journal.header.runId)
    (hrun : (adapter.nextIntent view).exec (.start world) = (x, d')) :
    (∀ i request, d'.sent[i]? = some request →
      adapter.Presents view (d'.exchanges.take i) request) ∧
    (d'.exchanges.length ≤ d'.sent.length ∧ d'.sent.length ≤ d'.exchanges.length + 1) ∧
    ((d'.exchanges.map ToolExchange.callId).Nodup → adapter.AdmitsAnother d'.offered →
      d'.exchanges.length < adapter.maximumRequestsPerAction → d'.refused = false →
      (d'.sent.length = d'.exchanges.length + 1 ↔ adapter.Fits view d'.exchanges)) ∧
    ∀ i j exchange later path content, i < j → d'.exchanges[i]? = some exchange →
      d'.exchanges[j]? = some later → exchange.Writes path content → later.Reads path →
      Untouched d'.exchanges path i j →
      later.output.text = if content = "" then "<empty>" else content := by
  have hended : adapter.Ended view d' := by
    have hend := @nextIntent_ended _ _ _ _ _ world hview
    rwa [hrun] at hend
  refine ⟨fun i request hi => (hended.presented i request hi).1, ?_, ?_, ?_⟩
  · rcases hended.counts with hcount | ⟨hcount, -⟩ <;> omega
  · intro hnodup hadmits hrequests hrefused
    constructor
    · intro hcount
      have hlast : d'.sent[d'.exchanges.length]? = some (d'.sent[d'.exchanges.length]) :=
        List.getElem?_eq_getElem (by omega)
      obtain ⟨hpresents, hshort, hdefaults⟩ := hended.presented _ _ hlast
      rw [List.take_length] at hpresents
      exact fits_of_presented hpresents hshort hdefaults
    · intro hfits
      refine hended.counts.resolve_right ?_
      rintro ⟨-, hhindered⟩
      rcases hhindered with h | h | h | h | h
      · exact Bool.noConfusion (h.symm.trans hrefused)
      · omega
      · exact h hadmits
      · exact h hnodup
      · exact h hfits
  · intro i j exchange later path content hij hi hj hwrite hread huntouched
    exact read_of_write hended.faithful hended.linked hij hi hj hwrite hread huntouched

end Action

end Adapters

/-! ### A write and a read, and an instruction that no request can carry -/

section SmallActions

local instance conversationCanonical : Canonical := plainCanonical

local instance plainViewText : ViewText := ⟨fun view => view.taskFamily⟩

def jsonText (s : String) : Json := .str (PyStr.ofString s)

def jsonObject (members : List (String × Json)) : Json :=
  .obj (members.map fun member => (PyStr.ofString member.1, member.2))

/-- An answer of the provider that calls one tool. -/
def callingAnswer (callId name arguments : String) : Json :=
  jsonObject [("id", jsonText callId), ("model", jsonText "m0"), ("status", jsonText "completed"),
    ("output", .arr [jsonObject [("type", jsonText "function_call"), ("call_id", jsonText callId),
      ("name", jsonText name), ("arguments", jsonText arguments),
      ("status", jsonText "completed")]]),
    ("usage", jsonObject [("input_tokens", .int 1), ("output_tokens", .int 1),
      ("total_tokens", .int 2)])]

/-- The provider writes a file, reads it, and sends something else afterwards. -/
local instance scriptedText : TextRuntime where
  loads raw :=
    if raw = [2] then .ok (callingAnswer "c1" "edagym_write_file" "W")
    else if raw = [4] then .ok (callingAnswer "c2" "edagym_read_file" "R")
    else .error .malformed
  loadsText arguments :=
    if arguments = PyStr.ofString "W" then
      .ok (jsonObject [("content", jsonText "x"), ("path", jsonText "a.v")])
    else if arguments = PyStr.ofString "R" then .ok (jsonObject [("path", jsonText "a.v")])
    else .error .malformed
  casefold := id

/-- An instruction of two bytes a character, a good deal below its bound. -/
def accentedInstruction : String := String.ofList (List.replicate 300000 'é')

lemma utf8ByteSize_replicate (n : Nat) (c : Char) :
    (String.ofList (List.replicate n c)).utf8ByteSize = n * c.utf8Size := by
  induction n with
  | zero => simp
  | succ n ih =>
    rw [List.replicate_succ, String.ofList_cons, String.utf8ByteSize_append,
      String.utf8ByteSize_singleton, ih, Nat.succ_mul, Nat.add_comm]

lemma six_mul_le_accents (n : Nat) :
    6 * n ≤ (AsciiJson.ofString (String.ofList (List.replicate n 'é'))).chars.length := by
  have haccents : ∀ c ∈ List.replicate n 'é'.toNat, 0x7e < c := by
    intro c hc
    rw [List.eq_of_mem_replicate hc]
    decide
  have hlong := AsciiJson.six_mul_length_le_text haccents
  rw [List.length_replicate] at hlong
  rwa [AsciiJson.ofString, AsciiJson.ofPyStr, PyStr.ofString, String.toList_ofList,
    List.map_replicate]

lemma accentedInstruction_bound :
    accentedInstruction ≠ "" ∧ accentedInstruction.utf8ByteSize ≤ 1000000 := by
  have hsize : accentedInstruction.utf8ByteSize = 300000 * 'é'.utf8Size :=
    utf8ByteSize_replicate _ _
  have hwidth : 'é'.utf8Size = 2 := by decide
  refine ⟨?_, by omega⟩
  intro hempty
  rw [hempty, hwidth] at hsize
  cases hsize

/-- A sender whose answers depend on how long the conversation is. -/
def scriptedSender : ResponsesSender where
  reserve _ _ := pure ⟨⟩
  exchange request := pure [UInt8.ofNat request.inputs.length]
  received _ _ := pure ⟨⟩

def netlistPaths : AllowedPaths where
  paths := ["a.v"]
  paths_ne := by decide
  paths_nodup := by decide
  normal := by decide

def smallAdapter (instruction : String)
    (h : instruction ≠ "" ∧ instruction.utf8ByteSize ≤ 1000000) : ResponsesParticipantAdapter where
  actorId := "h0"
  requestedModelRoute := "m0"
  journal := { header := harnessHeader, task := gateTask, fate := fun _ => .durable
               clock := fun _ => 9, eventIdFactory := fun n => 200 + n }
  session := trialSession
  sender := scriptedSender
  instruction := instruction
  tokenClaim := trialClaim
  tools := [.write netlistPaths, .read netlistPaths]
  disk := { readFails := fun _ => false, writeFate := fun _ => .replaced }
  maximumRequestsPerAction := 3
  requestIdFactory n := "q" ++ toString n
  participantToolInteractionId owner _ role :=
    owner ++ if role = .request then ".request" else ".result"
  validateIntent _ := none
  instruction_bound := h
  route_label := by decide
  names_nodup := by decide

def smallView : ParticipantView where
  runId := "run:t0"
  taskFamily := "adder"
  authoringRevision := 1
  actorId := "h0"

def privateWorkspace : ToolWorld where
  run := { events := transcriptEvents }
  workspace path := if path = [] then some (.directory true) else none

/-- The budgets admit a first request, and none leaves: the instruction takes more bytes on the wire
than a request may have. -/
theorem accented_instruction_unsent :
    (smallAdapter accentedInstruction accentedInstruction_bound).AdmitsAnother
        privateWorkspace.run.events ∧
      0 < (smallAdapter accentedInstruction accentedInstruction_bound).maximumRequestsPerAction ∧
      (((smallAdapter accentedInstruction accentedInstruction_bound).nextIntent smallView).exec
        (.start privateWorkspace)).2.sent = [] := by
  refine ⟨?_, by decide, ?_⟩
  · have hbudget : (replay harnessHeader gateTask transcriptEvents).toOption.map
        (fun run => requireRequestBudget trialSession run trialClaim) = some (.ok ⟨⟩) := by
      decide +kernel
    cases hrun : replay harnessHeader gateTask transcriptEvents with
    | error e => simp [hrun, Except.toOption] at hbudget
    | ok run =>
      rw [hrun] at hbudget
      exact ⟨run, hrun, by decide, Option.some.inj hbudget⟩
  · have hended := @nextIntent_ended _ (smallAdapter _ accentedInstruction_bound) smallView _ _
      privateWorkspace ⟨rfl, rfl⟩
    by_contra hne
    obtain ⟨request, hrequest⟩ := List.exists_mem_of_ne_nil _ hne
    obtain ⟨i, hi⟩ := List.mem_iff_getElem?.mp hrequest
    obtain ⟨⟨-, ⟨developer, user, answered, hinputs, -, htext, -⟩, -⟩, hshort, -⟩ :=
      hended.presented i request hi
    have hwire := request.length_wireItem_le
      (show ResponseInput.message developer ∈ request.inputs by
        rw [hinputs]; exact List.mem_cons_self)
    have hitem : (AsciiJson.ofPyStr developer.content).chars.length ≤
        (ResponseInput.message developer).wireItem.chars.length :=
      AsciiJson.length_le_record (List.mem_cons_of_mem _ (List.mem_singleton_self _))
    have hcontent : 6 * 300000 ≤ (AsciiJson.ofPyStr developer.content).chars.length := by
      rw [htext]
      exact six_mul_le_accents 300000
    rw [MAX_PROVIDER_TRANSCRIPT_REQUEST_BYTES] at hshort
    omega

lemma shortInstruction_bound : "go" ≠ "" ∧ "go".utf8ByteSize ≤ 1000000 := by
  decide +kernel

/-- What an action leaves that writes a file and reads it. -/
def writingDesk : AdapterDesk :=
  (((smallAdapter "go" shortInstruction_bound).nextIntent smallView).exec
    (.start privateWorkspace)).2

/-- Whether an exchange has written, the paths that its tool allows, and its arguments. -/
def ToolExchange.asked (exchange : ToolExchange) : Option (Bool × List String) × PyStr :=
  (match exchange.tool with
    | .write paths => some (true, paths.paths)
    | .read paths => some (false, paths.paths)
    | _ => none, exchange.arguments)

lemma ToolExchange.writes_of_asked {exchange : ToolExchange}
    (h : exchange.asked = (some (true, ["a.v"]), PyStr.ofString "W")) :
    exchange.Writes "a.v" "x" := by
  obtain ⟨tool, callId, arguments, output, before, after⟩ := exchange
  obtain ⟨htool, rfl⟩ := Prod.mk.inj h
  cases tool with
  | write paths =>
    have hpaths : paths.paths = ["a.v"] := congrArg Prod.snd (Option.some.inj htool)
    refine ⟨paths, _, rfl, rfl, ?_, rfl⟩
    rw [hpaths]
    rfl
  | _ => cases htool

lemma ToolExchange.reads_of_asked {exchange : ToolExchange}
    (h : exchange.asked = (some (false, ["a.v"]), PyStr.ofString "R")) : exchange.Reads "a.v" := by
  obtain ⟨tool, callId, arguments, output, before, after⟩ := exchange
  obtain ⟨htool, rfl⟩ := Prod.mk.inj h
  cases tool with
  | read paths =>
    have hpaths : paths.paths = ["a.v"] := congrArg Prod.snd (Option.some.inj htool)
    refine ⟨paths, _, rfl, rfl, ?_⟩
    rw [hpaths]
    rfl
  | _ => cases htool

lemma writingDesk_facts :
    writingDesk.exchanges.map ToolExchange.asked =
      [(some (true, ["a.v"]), PyStr.ofString "W"),
        (some (false, ["a.v"]), PyStr.ofString "R")] ∧
    writingDesk.sent.length = 3 ∧ writingDesk.refused = false ∧
    (writingDesk.exchanges.map ToolExchange.callId).Nodup ∧
    toolRequestCount writingDesk.offered < 4 ∧
    (replay harnessHeader gateTask writingDesk.offered).toOption.map
      (fun run => requireRequestBudget trialSession run trialClaim) = some (.ok ⟨⟩) := by
  decide +kernel

/-- The budgets admit a third request. -/
lemma writingDesk_admits :
    (smallAdapter "go" shortInstruction_bound).AdmitsAnother writingDesk.offered := by
  obtain ⟨-, -, -, -, hcalls, hbudget⟩ := writingDesk_facts
  obtain ⟨run, hrun, hadmitted⟩ := Option.map_eq_some_iff.mp hbudget
  refine ⟨run, ?_, hcalls, hadmitted⟩
  cases h : replay harnessHeader gateTask writingDesk.offered with
  | error e =>
    rw [h] at hrun
    cases hrun
  | ok other =>
    rw [h] at hrun
    exact h.trans (congrArg _ (Option.some.inj hrun))

/-- A write and a read are answered, a third request leaves, and the read delivers the content. -/
theorem small_action_presents :
    (∀ i request, writingDesk.sent[i]? = some request →
      (smallAdapter "go" shortInstruction_bound).Presents smallView (writingDesk.exchanges.take i)
        request) ∧
    (writingDesk.sent.length = 3 ∧ writingDesk.exchanges.length = 2) ∧
    (smallAdapter "go" shortInstruction_bound).Fits smallView writingDesk.exchanges ∧
    ∃ later, writingDesk.exchanges[1]? = some later ∧ later.Reads "a.v" ∧
      later.output.text = "x" := by
  obtain ⟨x, hrun⟩ : ∃ x, ((smallAdapter "go" shortInstruction_bound).nextIntent smallView).exec
      (.start privateWorkspace) = (x, writingDesk) := by
    rw [writingDesk]
    exact ⟨_, Prod.mk.eta.symm⟩
  obtain ⟨hpresents, -, hfits, hread⟩ := tool_results_reach_model
    (smallAdapter "go" shortInstruction_bound) smallView privateWorkspace x writingDesk
    ⟨rfl, rfl⟩ hrun
  obtain ⟨hasked, hsent, hrefused, hnodup, -, -⟩ := writingDesk_facts
  obtain ⟨first, rest, hexchanges, hfirst, hrest⟩ := List.map_eq_cons_iff.mp hasked
  obtain ⟨later, last, rfl, hlater, hlast⟩ := List.map_eq_cons_iff.mp hrest
  obtain rfl := List.map_eq_nil_iff.mp hlast
  have hlength : writingDesk.exchanges.length = 2 := by
    rw [hexchanges]
    rfl
  have hcount : writingDesk.sent.length = writingDesk.exchanges.length + 1 := by
    rw [hsent, hlength]
  have hfit := (hfits hnodup writingDesk_admits (hlength ▸ by decide) hrefused).mp hcount
  have hfirst' : writingDesk.exchanges[0]? = some first := by
    rw [hexchanges]
    rfl
  have hlater' : writingDesk.exchanges[1]? = some later := by
    rw [hexchanges]
    rfl
  have hreads := ToolExchange.reads_of_asked hlater
  have htext := hread 0 1 first later "a.v" "x" Nat.one_pos hfirst' hlater'
    (ToolExchange.writes_of_asked hfirst) hreads (fun k _ hpos hlt => by omega)
  rw [if_neg (by decide)] at htext
  exact ⟨hpresents, ⟨hsent, hlength⟩, hfit, later, hlater', hreads, htext⟩

end SmallActions

end EdaGym
