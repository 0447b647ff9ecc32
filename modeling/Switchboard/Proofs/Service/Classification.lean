import Switchboard.Proofs.Service.Accepted

/-!
# The type of a message, and acknowledgements

A message names its type, and many messages are only taken note of: they are answered with an
acknowledgement that gives the name of the type back.

* `Json.Reads`: the text at the end of a path, or a default. `reads_iff`: how it is found out.
* `RequestType.ofPayload_eq_iff`, `ofPayload_eq_unknown_iff`: a message is of a known type iff it
  names it.
* `Application.Attends`: the types of the messages for which an application does something.
* `ending_of_unattended`: every other message is acknowledged, under the name that it gives itself.
* **`acknowledged_by_name`**: who is acknowledged, and under which name.
-/

namespace Switchboard

/-! ## Texts in a value -/

namespace Json

/-- **The text at the end of a path**, or the default where there is none: where the path leads
nowhere, or to what is no text. -/
inductive Reads (v : Json) (path : List String) (default : String) : String → Prop where
  | found {text : String} (h : v.at? path = some (.str text)) : Reads v path default text
  | missing (h : ∀ text, v.at? path ≠ some (.str text)) : Reads v path default default

/-- The values with a text are the texts. -/
theorem str?_eq_some_iff {v : Json} {text : String} : v.str? = some text ↔ v = .str text := by
  cases v <;> simp [str?]

/-- What stands at the end of a path is a text. -/
theorem bind_str?_eq_some_iff {o : Option Json} {text : String} :
    o.bind str? = some text ↔ o = some (.str text) := by
  cases o <;> simp [str?_eq_some_iff]

/-- What is read along a path is the text at its end, or the default where there is no text. -/
theorem reads_iff {v : Json} {path : List String} {default text : String} :
    v.Reads path default text ↔ ((v.at? path).bind str?).getD default = text := by
  constructor
  · intro h
    cases h with
    | found h => rw [bind_str?_eq_some_iff.2 h, Option.getD_some]
    | missing h =>
        have hnone : (v.at? path).bind str? = none :=
          Option.eq_none_iff_forall_ne_some.2 fun text htext =>
            h text (bind_str?_eq_some_iff.1 htext)
        rw [hnone, Option.getD_none]
  · rintro rfl
    cases h : (v.at? path).bind str? with
    | some text => exact .found (bind_str?_eq_some_iff.1 h)
    | none =>
        refine .missing fun text htext => ?_
        rw [bind_str?_eq_some_iff.2 htext] at h
        cases h

/-- What is found below the message of a payload. -/
theorem at?_message (payload : Json) (step : String) (path : List String) :
    payload.at? ("message" :: step :: path) = (messageOf payload).at? (step :: path) := by
  have hpath : payload.at? ("message" :: step :: path) =
      (payload.get? "message").bind (at? (step :: path)) := rfl
  unfold messageOf
  rw [hpath]
  cases payload.get? "message" <;> rfl

end Json

/-! ## The type of a message -/

/-- Where a payload names the type of its message. -/
def typePath : List String := ["message", "type"]

namespace RequestType

/-- A text names a type iff it is its name. -/
theorem ofName?_eq_some_iff {text : String} {t : RequestType} (ht : t ≠ .unknown) :
    ofName? text = some t ↔ text = t.name := by
  constructor
  · intro h
    exact (name_of_ofName? h).symm
  · rintro rfl
    cases t <;> first | rfl | exact absurd rfl ht

/-- **A message is of a known type iff it names it.** -/
theorem ofPayload_eq_iff {payload : Json} {t : RequestType} (ht : t ≠ .unknown) :
    ofPayload payload = t ↔ payload.at? typePath = some (.str t.name) := by
  have hknown : ∀ o : Option RequestType, o.getD .unknown = t ↔ o = some t := by
    intro o
    cases o with
    | none => exact iff_of_false (fun h => ht h.symm) nofun
    | some t' => simp
  unfold ofPayload classify
  rw [hknown, Option.bind_eq_some_iff, ← Json.bind_str?_eq_some_iff]
  simp only [ofName?_eq_some_iff ht, exists_eq_right]
  rfl

/-- **In every other case it is of no known type.** -/
theorem ofPayload_eq_unknown_iff {payload : Json} :
    ofPayload payload = .unknown ↔ ∀ t : RequestType, t ≠ .unknown →
      payload.at? typePath ≠ some (.str t.name) := by
  constructor
  · intro h t ht hname
    exact ht ((ofPayload_eq_iff ht).2 hname ▸ h)
  · intro h
    by_contra hne
    exact h _ hne ((ofPayload_eq_iff hne).1 rfl)

end RequestType

/-- **A payload is of the type that its message names.** -/
structure Classified (payload : Json) : Prop where
  /-- It is of a known type iff the message names that type. -/
  known : ∀ t : RequestType, t ≠ .unknown →
    (RequestType.ofPayload payload = t ↔ payload.at? typePath = some (.str t.name))
  /-- It is of no known type iff the message names none. -/
  unknown : RequestType.ofPayload payload = .unknown ↔
    ∀ t : RequestType, t ≠ .unknown → payload.at? typePath ≠ some (.str t.name)

/-! ## Acknowledgements -/

/-- **The application does something for messages of the type**, other than to take note of them. -/
inductive Application.Attends (app : Application) : RequestType → Prop where
  | assistant : Attends app .assistantRequest
  | tools : Attends app .toolCalls
  | function : Attends app .functionCall
  | transfer {responder : Json → Outcome Json} (h : app.transfer = some responder) :
      Attends app .transferDestinationRequest

section endings

variable {production : Bool} {now : Nat} {app : Application} {cs : Caches} {payload : Json}

/-- What a responder returns is no acknowledgement. -/
theorem endingOf_ne_acknowledgement {context : String} {answer : Json → Answer}
    (hanswer : ∀ v name, answer v ≠ .acknowledgement name) (o : Outcome Json) (name : String) :
    endingOf production context answer o ≠ .answered (.acknowledgement name) := by
  intro h
  unfold endingOf at h
  split at h
  · exact hanswer _ name (Ending.answered.inj h)
  · cases h
  · split at h <;> cases h

/-- A message for which the application does something is not acknowledged. -/
theorem ending_ne_acknowledgement {t : RequestType} (h : app.Attends t) (name : String) :
    (dispatch production now app cs t payload).ending ≠ .answered (.acknowledgement name) := by
  intro hending
  cases h with
  | assistant =>
      change (dispatchAssistant production now app cs payload (messageOf payload)).ending = _
        at hending
      unfold dispatchAssistant at hending
      split at hending
      · cases hending
      · split at hending
        · cases hending
        · exact endingOf_ne_acknowledgement (fun _ _ => Answer.noConfusion) _ name hending
  | tools =>
      change (dispatchToolCalls cs (messageOf payload)).ending = _ at hending
      unfold dispatchToolCalls at hending
      dsimp only at hending
      repeat' split at hending
      all_goals cases hending
  | function =>
      change (dispatchFunctionCall cs (messageOf payload)).ending = _ at hending
      unfold dispatchFunctionCall at hending
      dsimp only at hending
      repeat' split at hending
      all_goals cases hending
  | transfer hresponder =>
      change (dispatchTransfer production app cs payload).ending = _ at hending
      unfold dispatchTransfer at hending
      rw [hresponder] at hending
      exact endingOf_ne_acknowledgement (fun _ _ => Answer.noConfusion) _ name hending

/-- **Every other message is acknowledged** under the name that it gives itself. -/
theorem ending_of_unattended (h : ¬ app.Attends (RequestType.ofPayload payload)) :
    ∃ name, payload.Reads typePath RequestType.unknown.name name ∧
      (dispatch production now app cs (RequestType.ofPayload payload) payload).ending =
        .answered (.acknowledgement name) := by
  have hnamed : ∀ t, RequestType.ofPayload payload = t → t ≠ .unknown →
      payload.Reads typePath RequestType.unknown.name t.name :=
    fun t ht hknown => .found ((RequestType.ofPayload_eq_iff hknown).1 ht)
  cases htype : RequestType.ofPayload payload <;> rw [htype] at h
  case assistantRequest => exact absurd .assistant h
  case toolCalls => exact absurd .tools h
  case functionCall => exact absurd .function h
  case transferDestinationRequest =>
    cases hresponder : app.transfer with
    | some responder => exact absurd (.transfer hresponder) h
    | none =>
        refine ⟨_, hnamed _ htype nofun, ?_⟩
        show (dispatchTransfer production app cs payload).ending = _
        unfold dispatchTransfer
        rw [hresponder]
        rfl
  case unknown =>
    refine ⟨unknownTypeName (messageOf payload), ?_, rfl⟩
    rw [Json.reads_iff, typePath, Json.at?_message]
    show ((((messageOf payload).get? "type").bind some).bind Json.str?).getD _ = _
    rw [Option.bind_fun_some]
    rfl
  all_goals exact ⟨_, hnamed _ htype nofun, rfl⟩

end endings

namespace State

variable {s : State} {r : Request} {m : Mount} {payload : Json}

/-- **How an accepted message is acknowledged**, if it is. -/
structure Acknowledges (clock : Nat → String) (s : State) (r : Request) (m : Mount)
    (payload : Json) : Prop where
  /-- It is acknowledged iff the application does nothing else for messages of its type. -/
  acknowledged_iff :
    (∃ name, (s.dispatched m payload).ending = .answered (.acknowledgement name)) ↔
      ¬ m.application.Attends (RequestType.ofPayload payload)
  /-- Its client then gets back the text that it names as its type, or the name for messages that
  name none. -/
  response : ∀ name, (s.dispatched m payload).ending = .answered (.acknowledgement name) →
    payload.Reads typePath "unknown" name ∧
      (s.serve clock r).1 = .ok (.json 200 (.object [("status", .str "ok"), ("type", .str name)]))

/-- An accepted request is acknowledged by name if nobody attends to it. -/
theorem acknowledges_of_accepted (h : s.accepted? r = some (m, payload)) (clock : Nat → String) :
    s.Acknowledges clock r m payload := by
  constructor
  case acknowledged_iff =>
    constructor
    · rintro ⟨name, hname⟩ hattends
      exact ending_ne_acknowledgement hattends name hname
    · intro hattends
      obtain ⟨name, -, hending⟩ := ending_of_unattended hattends
      exact ⟨name, hending⟩
  case response =>
    intro name hname
    have hattends : ¬ m.application.Attends (RequestType.ofPayload payload) :=
      fun hattends => ending_ne_acknowledgement hattends name hname
    obtain ⟨name', hreads, hending⟩ := ending_of_unattended hattends
    obtain rfl : name' = name := by
      rw [dispatched, hending] at hname
      simpa using hname
    exact ⟨hreads, response_serve_of_answered h clock hname⟩

/-- **Messages are classified by the type that they name, and acknowledged by it.** -/
theorem acknowledged_by_name :
    (∀ payload, Classified payload) ∧
      ∀ (s : State) (r : Request) (m : Mount) (payload : Json),
        s.accepted? r = some (m, payload) → ∀ clock, s.Acknowledges clock r m payload :=
  ⟨fun _ => ⟨fun _ => RequestType.ofPayload_eq_iff, RequestType.ofPayload_eq_unknown_iff⟩,
    fun _ _ _ _ h clock => acknowledges_of_accepted h clock⟩

/-- A message of a new type comes in; the weather application does nothing for it. -/
theorem acknowledged_by_name_weather :
    ∃ m payload,
      weatherService.accepted? (weatherPost "brand-new-type" "a") = some (m, payload) ∧
      weatherService.Acknowledges (fun time => toString time) (weatherPost "brand-new-type" "a")
        m payload ∧
      ¬ m.application.Attends (RequestType.ofPayload payload) := by
  have haccepted : (weatherService.accepted? (weatherPost "brand-new-type" "a")).any
      (fun a => RequestType.ofPayload a.2 = .unknown) = true := by decide +kernel
  obtain ⟨⟨m, payload⟩, h, hdecided⟩ := (Option.any_eq_true _ _).1 haccepted
  have htype : RequestType.ofPayload payload = .unknown := of_decide_eq_true hdecided
  refine ⟨m, payload, h, acknowledged_by_name.2 _ _ _ _ h _, ?_⟩
  rw [htype]
  exact nofun

end State

end Switchboard
