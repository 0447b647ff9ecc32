import Switchboard.Proofs.Service.Batch
import Switchboard.Proofs.Service.Containment
import Switchboard.Proofs.Service.Entries

/-!
# What is registered is invoked

A responder registers tools for an assistant and describes the assistant in its answer. The platform
later asks for calls of tools and gives back the assistant as it was described to it.

* `Describes`: the assistant that an answer of a responder describes.
* `namedBy_stampAssistant`, `assistantOf_echo`: marking an assistant leaves its id, and whoever
  echoes the marked assistant names that id.
* `Tells`: a result of a batch tells what came of an invocation.
* `invokes_serve`: in a batch that is answered, the result of each call of a registered tool tells
  what invoking the tool comes to.
* **`registered_invoked`**: so each tool that a responder has registered for the assistant it
  describes is invoked by every later call that echoes the assistant, until the entry is taken out.
-/

namespace Switchboard

/-! ## The assistant in an answer -/

/-- **The answer describes an assistant**: its metadata name the assistant, or name none, which
stands for the default. -/
inductive Describes (answer : Json) : String → Prop where
  | named {members : List (String × Json)} {assistant : String}
      (hassistant : answer.get? assistantMember = some (.obj members))
      (hid : (Json.obj members).at? ["metadata", assistantIdMember] = some (.str assistant)) :
      Describes answer assistant
  | unnamed {members : List (String × Json)}
      (hassistant : answer.get? assistantMember = some (.obj members))
      (hid : ((Json.obj members).at? ["metadata", assistantIdMember]).bind Json.str? = none) :
      Describes answer defaultAssistant

/-- The id that the metadata of an assistant name, or the default. -/
def namedBy (assistant : Json) : String :=
  ((assistant.at? ["metadata", assistantIdMember]).bind Json.str?).getD defaultAssistant

/-- The assistant of a message is the one that its member names. -/
theorem assistantOf_eq {message assistant : Json}
    (h : message.get? assistantMember = some assistant) :
    assistantOf message = namedBy assistant := by
  have hpath : message.at? ["assistant", "metadata", assistantIdMember] =
      (message.get? assistantMember).bind (Json.at? ["metadata", assistantIdMember]) := rfl
  unfold assistantOf
  rw [hpath, h]
  rfl

/-- An answer that describes an assistant has an object for it, which names it by its id. -/
theorem Describes.assistant {answer : Json} {id : String} (h : Describes answer id) :
    ∃ members, answer.get? assistantMember = some (.obj members) ∧
      namedBy (.obj members) = id := by
  cases h with
  | named hassistant hid =>
      refine ⟨_, hassistant, ?_⟩
      rw [namedBy, hid]
      rfl
  | unnamed hassistant hid =>
      refine ⟨_, hassistant, ?_⟩
      rw [namedBy, hid]
      rfl

/-- Metadata name the same assistant when they have been marked. -/
theorem id_stampMetadata (metadata : Json) :
    (((stampMetadata metadata).get? assistantIdMember).bind Json.str?).getD defaultAssistant =
      ((metadata.get? assistantIdMember).bind Json.str?).getD defaultAssistant := by
  cases metadata with
  | obj members =>
      unfold stampMetadata
      dsimp only
      cases hid : Assoc.get? assistantIdMember members with
      | some id => rfl
      | none =>
          rw [Json.get?_obj, Json.get?_obj, Assoc.get?_insert, if_pos rfl, hid]
          rfl
  | _ => rfl

/-- An assistant is named by the id in its metadata, or is the default one. -/
theorem namedBy_eq (assistant : Json) :
    namedBy assistant =
      ((((assistant.get? "metadata").getD .null).get? assistantIdMember).bind Json.str?).getD
        defaultAssistant := by
  have hpath : assistant.at? ["metadata", assistantIdMember] =
      (assistant.get? "metadata").bind fun metadata =>
        (metadata.get? assistantIdMember).bind some := rfl
  unfold namedBy
  rw [hpath]
  cases assistant.get? "metadata" with
  | none => rfl
  | some metadata =>
      rw [Option.bind_some, Option.bind_fun_some]
      rfl

/-- An assistant has the same id when it has been marked. -/
theorem namedBy_stampAssistant (members : List (String × Json)) :
    namedBy (stampAssistant (.obj members)) = namedBy (.obj members) := by
  have hmetadata : (stampAssistant (.obj members)).get? "metadata" =
      some (stampMetadata ((Assoc.get? "metadata" members).getD (.obj []))) := by
    unfold stampAssistant
    dsimp only
    rw [Json.get?_obj, Assoc.get?_insert, if_pos rfl]
  rw [namedBy_eq, namedBy_eq, hmetadata, Option.getD_some, id_stampMetadata, Json.get?_obj]
  cases Assoc.get? "metadata" members <;> rfl

/-- Marking an answer marks the assistant in it. -/
theorem get?_stamp {answer : Json} {members : List (String × Json)}
    (h : answer.get? assistantMember = some (.obj members)) :
    (stamp answer).get? assistantMember = some (stampAssistant (.obj members)) := by
  cases answer with
  | obj answered =>
      rw [Json.get?_obj] at h
      unfold stamp
      dsimp only
      rw [h]
      dsimp only
      rw [Json.get?_obj, Assoc.get?_insert, if_pos rfl]
  | _ => cases h

/-- **Whoever echoes the assistant of a marked answer names the assistant that the answer
describes.** -/
theorem assistantOf_echo {answer message : Json} {id : String} (h : Describes answer id)
    (hecho : message.get? assistantMember = (stamp answer).get? assistantMember) :
    assistantOf message = id := by
  obtain ⟨members, hassistant, hid⟩ := h.assistant
  rw [get?_stamp hassistant] at hecho
  rw [assistantOf_eq hecho, namedBy_stampAssistant, hid]

/-! ## Results of calls -/

/-- **A result of a batch tells what came of an invocation**: its result, or the text of its
error. -/
inductive Tells (result : Json) (invocation : Invocation) : Prop where
  | returned {text : String} (h : invocation.result = .ok text)
      (hresult : result.get? "result" = some (.str text)) (herror : result.get? "error" = none)
  | failed {e : InvocationError} {text : String} (h : invocation.result = .error e)
      (htext : e.text = .ok text) (hresult : result.get? "result" = none)
      (herror : result.get? "error" = some (.str text))

/-- A tool that is called by its name on readable arguments is invoked on them. -/
theorem tells_toJson {entry : Entry} {key : CacheKey} {element arguments : Json}
    {d : ToolDefinition} {r : ToolCallResult} (hd : entry.get? d.name = some d)
    (hcall : AskedCall.ofElement element = ⟨d.name, .ok arguments⟩)
    (hr : (startToolCall entry key element).result = .ok r) :
    Tells r.toJson (d.invoke arguments) := by
  obtain ⟨-, -, hresult, herror⟩ := r.get?_toJson
  have hstart : (AskedCall.ofElement element).start .toolCall entry key =
      .ran (d.invokeWithHooks key arguments) := by
    rw [hcall]
    show StartedCall.start _ _ _ _ _ = _
    unfold StartedCall.start
    rw [hd]
  rw [startToolCall_eq, hstart, StartedToolCall.result] at hr
  dsimp only [StartedCall.outcome] at hr
  rw [result_invokeWithHooks] at hr
  cases hinvoke : (d.invoke arguments).result with
  | ok text =>
      rw [hinvoke] at hr
      cases hr
      exact .returned hinvoke hresult herror
  | error e =>
      rw [hinvoke] at hr
      dsimp only at hr
      cases htext : e.text with
      | ok text =>
          rw [htext] at hr
          cases hr
          exact .failed hinvoke htext hresult herror
      | error p =>
          rw [htext] at hr
          cases hr

/-- A batch without unspeakable calls has a result for each element. -/
theorem resultsOf_of_speakable {entry : Entry} {elements : List Json}
    (h : ∀ element ∈ elements, ∀ p, ¬ (AskedCall.ofElement element).Unspeakable entry p)
    (key : CacheKey) :
    ∃ results, resultsOf (elements.map (startToolCall entry key)) = .ok results := by
  rcases comesTo_or_first_unspeakable .toolCall entry key (elements.map .ofElement) with
    ⟨-, outcomes, houtcomes⟩ | ⟨before, c, later, p, heq, -, hc⟩
  · obtain ⟨results, hresults, -⟩ := resultsOf_of_comesTo houtcomes
    exact ⟨results, hresults⟩
  · have hmem : c ∈ elements.map AskedCall.ofElement := by
      rw [heq]
      exact List.mem_append_right _ List.mem_cons_self
    obtain ⟨element, helement, rfl⟩ := List.mem_map.1 hmem
    exact absurd hc (h element helement p)

namespace State

variable {s : State} {r : Request} {m : Mount} {payload : Json}

/-- **The request invokes a tool**: its message has a key whose entry has the tool, and where it is
answered, the result of each call of the tool tells what came of invoking the tool on the arguments
of the call. -/
structure Invokes (clock : Nat → String) (s : State) (r : Request) (m : Mount) (message : Json)
    (key : CacheKey) (d : ToolDefinition) (entry : Entry) : Prop where
  key_eq : keyOf message = .ok key
  found : m.caches.tools.get key = .ok entry
  registered : entry.get? d.name = some d
  /-- Unless the error of some handler in the batch has no wording, each call has its result. -/
  results : ∀ elements, (message.get? "toolCallList").bind Json.arr? = some elements →
    (∀ element ∈ elements, ∀ p, ¬ (AskedCall.ofElement element).Unspeakable entry p) →
      ∃ results, (s.serve clock r).1 = .ok (.json 200 (.object [("results", .arr results)])) ∧
        results.length = elements.length ∧
        ∀ i (hi : i < results.length) element arguments, elements[i]? = some element →
          AskedCall.ofElement element = ⟨d.name, .ok arguments⟩ →
            Tells (results[i]) (d.invoke arguments)

/-- A batch that finds the entry of a tool invokes the tool. -/
theorem invokes_serve {key : CacheKey} {entry : Entry} {d : ToolDefinition}
    (h : s.accepted? r = some (m, payload)) (htype : RequestType.ofPayload payload = .toolCalls)
    (hkey : keyOf (messageOf payload) = .ok key) (hentry : m.caches.tools.get key = .ok entry)
    (hd : entry.get? d.name = some d) (clock : Nat → String) :
    s.Invokes clock r m (messageOf payload) key d entry := by
  refine ⟨hkey, hentry, hd, fun elements helements hspeakable => ?_⟩
  obtain ⟨results, hresults⟩ := resultsOf_of_speakable hspeakable key
  have hending : (s.dispatched m payload).ending = .answered (.toolCalls results) := by
    show (dispatch _ _ _ _ (RequestType.ofPayload payload) payload).ending = _
    rw [htype]
    show (dispatchToolCalls m.caches (messageOf payload)).ending = _
    rw [ending_toolCalls hkey hentry helements, hresults]
  have heach := resultsOf_eq_ok_iff.1 hresults
  have hlength : results.length = elements.length := by
    have := congrArg List.length heach
    rw [List.length_map, List.length_map, List.length_map] at this
    exact this.symm
  refine ⟨results.map ToolCallResult.toJson, response_serve_of_answered h clock hending, ?_, ?_⟩
  · rw [List.length_map, hlength]
  · intro i hi element arguments helement hcall
    rw [List.length_map] at hi
    have hresult : (startToolCall entry key element).result = .ok results[i] := by
      have hplace := congrArg (fun l => l[i]?) heach
      simp only [List.getElem?_map, helement, List.getElem?_eq_getElem hi, Option.map_some,
        Option.some.injEq] at hplace
      exact hplace
    rw [List.getElem_map]
    exact tells_toJson hd hcall hresult

/-! ## From registration to invocation -/

/-- The request is accepted as one for calls of tools, about a session, and gives back the assistant
of an answer. -/
structure Echoes (s : State) (r : Request) (path session : String) (answered : Json) (m : Mount)
    (payload : Json) : Prop where
  accepted : s.accepted? r = some (m, payload)
  path_eq : m.path = path
  type_eq : RequestType.ofPayload payload = .toolCalls
  session_eq : sessionOf? (messageOf payload) = some session
  echo : (messageOf payload).get? assistantMember = answered.get? assistantMember

/-- **What a responder has registered is reached** in the name of an assistant. -/
structure Reached (clock : Nat → String) (s : State) (r : Request)
    (path session assistant : String) (answer : Json)
    (registered : List (CacheKind × String × ToolDefinition)) : Prop where
  /-- The request for the assistant is answered with the responder's answer, marked. -/
  answered : (s.serve clock r).1 = .ok (.json 200 (stamp answer))
  /-- Each tool is in the entry of the assistant. As long as that entry is spared, a request that
  echoes the assistant invokes the tool. -/
  invoked : ∀ d, (.toolCall, assistant, d) ∈ registered →
    ∃ e, (s.serve clock r).2.lookup? path .toolCall ⟨session, assistant⟩ = some e ∧
      e.get? d.name = some d ∧
      ∀ steps, (s.serve clock r).2.Throughout clock
        (Spares path ⟨session, assistant⟩ e.created) steps →
        ∀ r' m' payload',
          ((s.serve clock r).2.after clock steps).Echoes r' path session (stamp answer)
            m' payload' →
            ∃ e', e.Extends e' ∧ ((s.serve clock r).2.after clock steps).Invokes clock r' m'
              (messageOf payload') ⟨session, assistant⟩ d e'

/-- **What is registered is invoked**, in a service whose applications have different paths, as
those of every service that starts have (`paths_nodup_of_build`). -/
theorem registered_invoked {responder : AssistantRequest → Script} {session assistant : String}
    {answer : Json} (hs : (s.mounts.map Mount.path).Nodup) (clock : Nat → String)
    (h : s.accepted? r = some (m, payload))
    (htype : RequestType.ofPayload payload = .assistantRequest)
    (hresponder : m.application.assistant = some responder)
    (hsession : sessionOf? (messageOf payload) = some session)
    (hreturned : ((responder ⟨session, m.path, payload⟩).run session s.now m.caches).2 =
      .returned answer)
    (hdescribes : Describes answer assistant) :
    s.Reached clock r m.path session assistant answer
      ((responder ⟨session, m.path, payload⟩).accepted session s.now m.caches) := by
  have hdispatched : s.dispatched m payload =
      .ended (.answered (.responder (stamp answer)))
        ((responder ⟨session, m.path, payload⟩).run session s.now m.caches).1 := by
    show dispatch _ _ _ _ (RequestType.ofPayload payload) payload = _
    rw [htype]
    show dispatchAssistant _ _ m.application m.caches payload (messageOf payload) = _
    unfold dispatchAssistant
    rw [hresponder, hsession]
    dsimp only
    rw [show ((responder ⟨session, m.application.serverPath, payload⟩).run session s.now
      m.caches).2 = .returned answer from hreturned]
    rfl
  have hs' : ((s.serve clock r).2.mounts.map Mount.path).Nodup :=
    paths_nodup_perform hs clock (.request r)
  constructor
  case answered =>
    exact response_serve_of_answered h clock (by rw [hdispatched]; rfl)
  case invoked =>
    intro d hd
    obtain ⟨e, he, hname⟩ := Script.get?_run_of_accepted _ _ hd
    have hlookup :
        (s.serve clock r).2.lookup? m.path .toolCall ⟨session, assistant⟩ = some e := by
      rw [lookup?_serve hs h, if_pos rfl, hdispatched]
      exact he
    refine ⟨e, hlookup, hname, fun steps hspares r' m' payload' hecho => ?_⟩
    obtain ⟨e', he', hextends⟩ := lookup?_after_of_spares hs' clock hlookup hspares
    have hkey : keyOf (messageOf payload') = .ok ⟨session, assistant⟩ := by
      rw [keyOf_of_sessionOf? hecho.session_eq, assistantOf_echo hdescribes hecho.echo]
    have hentry : m'.caches.tools.get ⟨session, assistant⟩ = .ok e' := by
      rw [← hecho.path_eq, lookup?_of_mem (paths_nodup_after hs' clock steps)
        (mem_of_accepted? hecho.accepted)] at he'
      exact FunctionCache.get_eq_ok_iff.2 he'
    exact ⟨e', hextends, invokes_serve hecho.accepted hecho.type_eq hkey hentry
      (hextends.functions hname) clock⟩

/-- The weather application registers its tool and describes the assistant without naming it. -/
theorem registered_invoked_weather :
    ∃ (m : Mount) (payload answer : Json)
      (registered : List (CacheKind × String × ToolDefinition)),
      (weatherService.mounts.map Mount.path).Nodup ∧
      weatherService.accepted? (weatherPost "assistant-request" "a") = some (m, payload) ∧
      RequestType.ofPayload payload = .assistantRequest ∧
      m.application.assistant = some Weather.responder ∧
      sessionOf? (messageOf payload) = some "a" ∧
      ((Weather.responder ⟨"a", m.path, payload⟩).run "a" weatherService.now m.caches).2 =
        .returned answer ∧
      Describes answer defaultAssistant ∧ registered ≠ [] ∧
      weatherService.Reached (fun time => toString time)
        (weatherPost "assistant-request" "a") m.path "a"
        defaultAssistant answer registered := by
  have hs := paths_nodup_of_build build_weather
  have haccepted : (weatherService.accepted? (weatherPost "assistant-request" "a")).any (fun a =>
      RequestType.ofPayload a.2 = .assistantRequest &&
        sessionOf? (messageOf a.2) = some "a") = true := by
    decide +kernel
  obtain ⟨⟨m, payload⟩, h, hmessage⟩ := (Option.any_eq_true _ _).1 haccepted
  obtain ⟨htype, hsession⟩ : RequestType.ofPayload payload = .assistantRequest ∧
      sessionOf? (messageOf payload) = some "a" := by
    simpa using hmessage
  obtain rfl : m = { application := Weather.application {} } :=
    List.mem_singleton.1 (mem_of_accepted? h)
  have hdescribes : Describes (Weather.assistant "/vapi") defaultAssistant := .unnamed rfl rfl
  exact ⟨_, payload, _, _, hs, h, htype, rfl, hsession, rfl, hdescribes, List.cons_ne_nil _ _,
    registered_invoked hs _ h htype rfl hsession rfl hdescribes⟩

end State

end Switchboard
