import Mathlib.Logic.Relation
import Switchboard.Proofs.Service.Calls

/-!
# Batches of calls

The calls of a batch are started in order, and are then run beside each other: whichever is ready
may begin next, and whichever runs may end next. The results are collected when all have ended.

* `toolResult`: the result of an element, as a function of the element and of the entry.
* `Batch`, `Batch.Step`: the calls of a batch and one thing that can happen to them, with a log of
  the calls of handlers.
* `Batch.Follows`: the invariant. The place of each call is where it was, and holds what the call
  alone accounts for; so does the part of the log that belongs to it.
* **`batch_isolated`**: however the calls are interleaved, the batch ends with the result of each
  element in order, and every handler that is reached has been called once.
-/

namespace Switchboard

/-- Every error of a handler in the entry has a wording. -/
def Entry.Worded (entry : Entry) : Prop :=
  ∀ name d as f, entry.get? name = some d → d.handler as = .failed f → ∃ s, f.text = .ok s

/-! ## One element -/

/-- The result of an element of a batch. -/
def toolResult (entry : Entry) (key : CacheKey) (element : Json) : ToolCallResult :=
  let c := AskedCall.ofElement element
  ⟨textOf element "id", c.name,
    (c.start .toolCall entry key).outcome.toOption.getD (.failure "")⟩

section element

variable {entry : Entry} {key : CacheKey}

/-- Where all errors have a wording, no call is unspeakable. -/
theorem Entry.Worded.not_unspeakable (h : entry.Worded) {c : AskedCall} {p : Panic} :
    ¬ c.Unspeakable entry p := by
  rintro ⟨arguments, d, as, f, hreaches, hf, hp⟩
  obtain ⟨s, hs⟩ := h c.name d as f hreaches.registered hf
  rw [hs] at hp
  cases hp

/-- Where all errors have a wording, an element comes to its own result. -/
theorem comesTo_toolResult (h : entry.Worded) (key : CacheKey) (element : Json) :
    (AskedCall.ofElement element).ComesTo .toolCall entry key
      (toolResult entry key element).outcome := by
  rcases (AskedCall.ofElement element).comesTo_or_unspeakable .toolCall entry key with
    ⟨o, ho⟩ | ⟨p, hp⟩
  · have houtcome : (toolResult entry key element).outcome = o := by
      unfold toolResult
      dsimp only
      rw [ho.outcome_start]
      rfl
    rwa [houtcome]
  · exact absurd hp h.not_unspeakable

/-- Where all errors have a wording, a started call has the result of its element. -/
theorem result_startToolCall (h : entry.Worded) (key : CacheKey) (element : Json) :
    (startToolCall entry key element).result = .ok (toolResult entry key element) :=
  result_of_comesTo (comesTo_toolResult h key element)

/-- What the JSON form of a result holds: both names, and either the result or the error. -/
theorem ToolCallResult.get?_toJson (r : ToolCallResult) :
    r.toJson.get? "toolCallId" = some (.str r.toolCallId) ∧
      r.toJson.get? "name" = some (.str r.name) ∧
      r.toJson.get? "result" = r.outcome.result.toOption.map Json.str ∧
      r.toJson.get? "error" =
        match r.outcome.result with
        | .ok _ => none
        | .error text => some (.str text) := by
  unfold ToolCallResult.toJson messagesMember
  simp only [Json.get?_object]
  cases r.outcome.messages.isEmpty <;> cases r.outcome.result <;>
    simp [Json.member?, Except.toOption]

/-- No tool has a blank name, so a call without a name fails. -/
theorem toolResult_of_blank (h : entry.Worded) (key : CacheKey) {element : Json}
    (hname : Text.allBlank (AskedCall.ofElement element).name = true) :
    ∃ text, (toolResult entry key element).outcome.result = .error text :=
  (comesTo_toolResult h key element).error_of_unregistered (entry.get?_of_blank hname)

end element

/-! ## Calls side by side -/

/-- How far one call of a batch has come. -/
inductive Slot where
  /-- It has been handed over and has not begun. -/
  | waiting (c : StartedToolCall)
  /-- It has begun. -/
  | running (c : StartedToolCall)
  /-- It has ended. -/
  | ended (result : Except Panic ToolCallResult)

/-- A call where no tool is to be run has ended when it has been started. -/
def Slot.start (c : StartedToolCall) : Slot :=
  match c.call with
  | .settled _ => ended c.result
  | .ran _ => waiting c

/-- How many things are still to happen to a call. -/
def Slot.work : Slot → Nat
  | waiting _ => 2
  | running _ => 1
  | ended _ => 0

/-- The calls of a batch in order, and the calls of handlers so far, each with the place of its
call. -/
structure Batch where
  slots : List Slot
  log : List (Nat × HandlerCall)

namespace Batch

/-- A batch whose calls have been started. -/
def start (entry : Entry) (key : CacheKey) (elements : List Json) : Batch :=
  ⟨elements.map fun element => .start (startToolCall entry key element), []⟩

/-- **One call begins or ends**, whichever it is. -/
inductive Step (b : Batch) : Batch → Prop where
  | begins {i : Nat} {c : StartedToolCall} (h : b.slots[i]? = some (.waiting c)) :
      Step b ⟨b.slots.set i (.running c),
        b.log ++ c.call.handlerCalls.map fun call => (i, call)⟩
  | ends {i : Nat} {c : StartedToolCall} (h : b.slots[i]? = some (.running c)) :
      Step b ⟨b.slots.set i (.ended c.result), b.log⟩

/-- The batch has come about from the start of the given elements. -/
def Reached (entry : Entry) (key : CacheKey) (elements : List Json) (b : Batch) : Prop :=
  Relation.ReflTransGen Step (start entry key elements) b

/-- Nothing more can happen. -/
def Over (b : Batch) : Prop := ∀ b', ¬ Step b b'

/-- How many things are still to happen. -/
def work (slots : List Slot) : Nat := slots.foldr (fun slot n => slot.work + n) 0

/-- The calls of handlers that the call at a place has made. -/
def callsOf (b : Batch) (i : Nat) : List HandlerCall :=
  (b.log.filter fun entry => entry.1 = i).map (·.2)

/-! ## Every schedule ends -/

/-- The work of a batch in which one slot changes is the work of the others and of the new slot. -/
theorem work_set {slots : List Slot} {i : Nat} {old : Slot} (h : slots[i]? = some old)
    (new : Slot) :
    work (slots.set i new) + old.work = work slots + new.work := by
  unfold work
  induction slots generalizing i with
  | nil => cases h
  | cons slot rest ih =>
      cases i with
      | zero =>
          obtain rfl : slot = old := by simpa using h
          simp only [List.set_cons_zero, List.foldr_cons]
          omega
      | succ i =>
          have hrest := ih (i := i) (by simpa using h)
          simp only [List.set_cons_succ, List.foldr_cons]
          omega

/-- Every step of a batch leaves less work, so that a batch comes to an end. -/
theorem Step.work_lt {b b' : Batch} (h : Step b b') : work b'.slots < work b.slots := by
  cases h with
  | @begins i c h =>
      have hset := work_set h (.running c)
      simp only [Slot.work] at hset
      dsimp only
      omega
  | @ends i c h =>
      have hset := work_set h (.ended c.result)
      simp only [Slot.work] at hset
      dsimp only
      omega

/-- A batch is over once all its calls have ended. -/
theorem Over.ended {b : Batch} (h : b.Over) {i : Nat} {slot : Slot}
    (hslot : b.slots[i]? = some slot) :
    ∃ result, slot = .ended result := by
  cases slot with
  | waiting c => exact absurd (.begins hslot) (h _)
  | running c => exact absurd (.ends hslot) (h _)
  | ended result => exact ⟨result, rfl⟩

/-! ## The invariant -/

/-- What the place of a call holds and which calls of handlers it has made, as far as it has
come. -/
inductive Tracks (c : StartedToolCall) : Slot → List HandlerCall → Prop where
  | waiting : Tracks c (.waiting c) []
  | running : Tracks c (.running c) c.call.handlerCalls
  | ended : Tracks c (.ended c.result) c.call.handlerCalls

/-- **The batch follows its elements**: each place is about the element that stands there. -/
structure Follows (entry : Entry) (key : CacheKey) (elements : List Json) (b : Batch) : Prop where
  length_eq : b.slots.length = elements.length
  tracks : ∀ i element, elements[i]? = some element → ∃ slot, b.slots[i]? = some slot ∧
    Tracks (startToolCall entry key element) slot (b.callsOf i)
  log_lt : ∀ logged ∈ b.log, logged.1 < elements.length

section follows

variable {entry : Entry} {key : CacheKey} {elements : List Json} {b b' : Batch}

/-- A batch follows its calls from the start. -/
theorem follows_start (entry : Entry) (key : CacheKey) (elements : List Json) :
    Follows entry key elements (start entry key elements) := by
  refine ⟨by simp [start], fun i element helement => ?_, by simp [start]⟩
  refine ⟨.start (startToolCall entry key element), by simp [start, helement], ?_⟩
  show Tracks _ _ []
  unfold Slot.start
  cases hcall : (startToolCall entry key element).call with
  | settled o =>
      have hnone : (startToolCall entry key element).call.handlerCalls = [] := by rw [hcall]; rfl
      rw [← hnone]
      exact .ended
  | ran invocation => exact .waiting

/-- Calls of handlers from one place add to the calls from this place and from no other. -/
theorem callsOf_append (slots slots' : List Slot) (log : List (Nat × HandlerCall)) (i j : Nat)
    (calls : List HandlerCall) :
    (Batch.mk slots (log ++ calls.map fun call => (i, call))).callsOf j =
      (Batch.mk slots' log).callsOf j ++ if i = j then calls else [] := by
  unfold callsOf
  rw [List.filter_append, List.map_append]
  congr 1
  by_cases hij : i = j <;> simp [List.filter_map, Function.comp_def, hij]

/-- What happens at one place keeps the batch following its elements, if that place goes on tracking
its own call and the calls of handlers from other places stay as they are. -/
theorem Follows.set (h : Follows entry key elements b) {i : Nat} {old new : Slot}
    {log : List (Nat × HandlerCall)} (hslot : b.slots[i]? = some old)
    (hself : ∀ c calls, Tracks c old calls → b.callsOf i = calls →
      Tracks c new ((Batch.mk b.slots log).callsOf i))
    (hothers : ∀ j, j ≠ i → (Batch.mk b.slots log).callsOf j = b.callsOf j)
    (hlog : ∀ logged ∈ log, logged ∈ b.log ∨ logged.1 = i) :
    Follows entry key elements ⟨b.slots.set i new, log⟩ := by
  have hi : i < b.slots.length := (List.getElem?_eq_some_iff.1 hslot).1
  refine ⟨?_, ?_, ?_⟩
  · rw [List.length_set, h.length_eq]
  · intro j element helement
    obtain ⟨slot, hj, htracks⟩ := h.tracks j element helement
    by_cases hij : i = j
    · subst hij
      obtain rfl : old = slot := by
        rw [hslot] at hj
        exact Option.some.inj hj
      exact ⟨new, List.getElem?_set_self hi, hself _ _ htracks rfl⟩
    · refine ⟨slot, by rw [List.getElem?_set_ne hij, hj], ?_⟩
      have hcalls := hothers j (Ne.symm hij)
      rw [← hcalls] at htracks
      exact htracks
  · intro logged hlogged
    rcases hlog logged hlogged with hold | rfl
    · exact h.log_lt logged hold
    · rw [← h.length_eq]
      exact hi

/-- One thing that happens to one call leaves all others as they are. -/
theorem Follows.step (h : Follows entry key elements b) (hstep : Step b b') :
    Follows entry key elements b' := by
  cases hstep with
  | @begins i c hslot =>
      apply h.set hslot
      · intro c' calls htracks hcalls
        rw [callsOf_append _ b.slots, if_pos rfl]
        cases htracks
        show Tracks _ _ (b.callsOf i ++ _)
        rw [hcalls]
        exact .running
      · intro j hj
        rw [callsOf_append _ b.slots, if_neg hj.symm, List.append_nil]
      · intro logged hlogged
        rcases List.mem_append.1 hlogged with hold | hnew
        · exact .inl hold
        · obtain ⟨call, -, rfl⟩ := List.mem_map.1 hnew
          exact .inr rfl
  | @ends i c hslot =>
      apply h.set hslot
      · intro c' calls htracks hcalls
        cases htracks
        show Tracks _ _ (b.callsOf i)
        rw [hcalls]
        exact .ended
      · exact fun _ _ => rfl
      · exact fun logged hlogged => .inl hlogged

/-- A batch follows its calls in whatever order they are completed, by induction on the steps. -/
theorem Reached.follows (h : Reached entry key elements b) : Follows entry key elements b := by
  induction h with
  | refl => exact follows_start entry key elements
  | tail _ hstep ih => exact ih.step hstep

/-- When a batch is over its places hold the results of the calls, in order. -/
theorem Follows.slots_of_over (h : Follows entry key elements b) (hover : b.Over) :
    b.slots = elements.map fun element => .ended (startToolCall entry key element).result := by
  apply List.ext_getElem?
  intro i
  rw [List.getElem?_map]
  cases helement : elements[i]? with
  | none =>
      rw [List.getElem?_eq_none_iff] at helement
      rw [Option.map_none, List.getElem?_eq_none_iff, h.length_eq]
      exact helement
  | some element =>
      obtain ⟨slot, hslot, htracks⟩ := h.tracks i element helement
      obtain ⟨result, rfl⟩ := hover.ended hslot
      rw [hslot, Option.map_some]
      generalize b.callsOf i = calls at htracks
      cases htracks
      rfl

/-- When a batch is over each call has made its calls of handlers, once. -/
theorem Follows.callsOf_of_over (h : Follows entry key elements b) (hover : b.Over) {i : Nat}
    {element : Json} (helement : elements[i]? = some element) :
    b.callsOf i = (startToolCall entry key element).call.handlerCalls := by
  obtain ⟨slot, hslot, htracks⟩ := h.tracks i element helement
  obtain ⟨result, rfl⟩ := hover.ended hslot
  generalize b.callsOf i = calls at htracks ⊢
  cases htracks
  rfl

end follows

end Batch

/-! ## Isolation -/

/-- The id of a call in an element, or the empty text. -/
def elementId (element : Json) : String := ((element.get? "id").bind Json.str?).getD ""

/-- The name of the tool in an element, or the empty text. -/
def elementName (element : Json) : String :=
  ((element.at? ["function", "name"]).bind Json.str?).getD ""

/-- The members of an element's function, which is none where there is no function. -/
theorem at?_function (element : Json) (member : String) :
    element.at? ["function", member] = ((element.get? "function").getD .null).get? member := by
  show (element.get? "function").bind (Json.at? [member]) = _
  cases element.get? "function" with
  | none => rfl
  | some function => exact Option.bind_fun_some (function.get? member)

/-- The call that an element asks for has the name in the element. -/
theorem name_ofElement (element : Json) :
    (AskedCall.ofElement element).name = elementName element := by
  unfold elementName
  rw [at?_function]
  rfl

/-- **The calls of a batch are isolated from each other.** -/
structure BatchIsolated (entry : Entry) (key : CacheKey) (elements : List Json) : Prop where
  /-- Whatever happens is one of finitely many things that are to happen. -/
  ends : ∀ b b', Batch.Reached entry key elements b → Batch.Step b b' →
    Batch.work b'.slots < Batch.work b.slots
  /-- When nothing more can happen, there is the result of each element, in order. -/
  results : ∀ b, Batch.Reached entry key elements b → b.Over →
    b.slots = elements.map fun element => .ended (.ok (toolResult entry key element))
  /-- These are the results with which a message is answered that asks for the batch. -/
  answered : ∀ cs message, keyOf message = .ok key → cs.tools.get key = .ok entry →
    (message.get? "toolCallList").bind Json.arr? = some elements →
      (dispatchToolCalls cs message).ending =
        .answered (.toolCalls (elements.map (toolResult entry key)))
  /-- The handler that a call reaches has been called once. -/
  called_once : ∀ b, Batch.Reached entry key elements b → b.Over → ∀ i element,
    elements[i]? = some element → ∀ arguments d as,
      (AskedCall.ofElement element).Reaches entry arguments d as → b.callsOf i = [⟨d, as⟩]
  /-- A call that reaches no handler has not called one. -/
  not_called : ∀ b, Batch.Reached entry key elements b → b.Over → ∀ i element,
    elements[i]? = some element →
      (∀ arguments d as, ¬ (AskedCall.ofElement element).Reaches entry arguments d as) →
        b.callsOf i = []
  /-- No other handlers have been called. -/
  log_lt : ∀ b, Batch.Reached entry key elements b →
    ∀ logged ∈ b.log, logged.1 < elements.length
  /-- The outcome of an element is what its call comes to. -/
  outcome : ∀ element, (AskedCall.ofElement element).ComesTo .toolCall entry key
    (toolResult entry key element).outcome
  /-- A result has either a result or an error. -/
  either : ∀ element, ((toolResult entry key element).toJson.get? "result").isSome =
    !((toolResult entry key element).toJson.get? "error").isSome
  /-- It gives back the id and the name. -/
  echoed : ∀ element,
    (toolResult entry key element).toJson.get? "toolCallId" = some (.str (elementId element)) ∧
      (toolResult entry key element).toJson.get? "name" = some (.str (elementName element))
  /-- Without a name there is an error. -/
  nameless : ∀ element, Text.allBlank (elementName element) = true →
    ((toolResult entry key element).toJson.get? "error").isSome = true

section isolation

variable {entry : Entry}

/-- Where all errors have a wording, a batch has the results of its elements, in order. -/
theorem resultsOf_of_worded (hworded : entry.Worded) (key : CacheKey) (elements : List Json) :
    resultsOf (elements.map (startToolCall entry key)) =
      .ok (elements.map (toolResult entry key)) := by
  rw [resultsOf_eq_ok_iff, List.map_map, List.map_map]
  refine List.map_congr_left fun element _ => ?_
  exact result_startToolCall hworded key element

/-- **However the calls of a batch are interleaved**, each of them is answered as if it stood
alone. -/
theorem batch_isolated (hworded : entry.Worded) (key : CacheKey) (elements : List Json) :
    BatchIsolated entry key elements := by
  constructor
  case ends =>
    intro b b' _ hstep
    exact hstep.work_lt
  case results =>
    intro b hb hover
    rw [hb.follows.slots_of_over hover]
    refine List.map_congr_left fun element _ => ?_
    rw [result_startToolCall hworded]
  case answered =>
    intro cs message hkey hentry hcalls
    rw [ending_toolCalls hkey hentry hcalls, resultsOf_of_worded hworded]
  case called_once =>
    intro b hb hover i element helement arguments d as hreaches
    rw [hb.follows.callsOf_of_over hover helement, startToolCall_eq]
    exact AskedCall.handlerCalls_start_of_reaches hreaches
  case not_called =>
    intro b hb hover i element helement hreaches
    rw [hb.follows.callsOf_of_over hover helement, startToolCall_eq]
    exact AskedCall.handlerCalls_start_of_not_reaches hreaches
  case log_lt =>
    intro b hb
    exact hb.follows.log_lt
  case outcome => exact comesTo_toolResult hworded key
  case either =>
    intro element
    obtain ⟨-, -, hresult, herror⟩ := (toolResult entry key element).get?_toJson
    rw [hresult, herror]
    cases (toolResult entry key element).outcome.result <;> rfl
  case echoed =>
    intro element
    obtain ⟨hid, hname, -, -⟩ := (toolResult entry key element).get?_toJson
    rw [hid, hname]
    refine ⟨rfl, ?_⟩
    rw [← name_ofElement]
    rfl
  case nameless =>
    intro element hblank
    rw [← name_ofElement] at hblank
    obtain ⟨text, htext⟩ := toolResult_of_blank hworded key hblank
    obtain ⟨-, -, -, herror⟩ := (toolResult entry key element).get?_toJson
    rw [herror, htext]
    rfl

end isolation

/-- An entry with a tool that returns a text and a tool that fails. -/
def Batch.twoTools : Entry :=
  ((Entry.new ⟨"S", defaultAssistant⟩ 0).insert
      (.constant "yes" (by decide) (.returned "done"))).insert
    (.constant "no" (by decide) (.failed (.ofText "no luck")))

/-- So it is with two tools of which one fails, and an element that asks for neither. -/
theorem batch_isolated_twoTools :
    Batch.twoTools.Worded ∧ BatchIsolated Batch.twoTools ⟨"S", defaultAssistant⟩
      [plainElement "1" "no", .null, plainElement "2" "yes"] := by
  have hworded : Batch.twoTools.Worded := by
    intro name d as f hd hf
    rw [Batch.twoTools, Entry.get?_insert, Entry.get?_insert, Entry.get?_new] at hd
    split at hd
    · obtain rfl := Option.some.inj hd
      cases hf
      exact ⟨"no luck", rfl⟩
    · split at hd
      · obtain rfl := Option.some.inj hd
        cases hf
      · cases hd
  exact ⟨hworded, batch_isolated hworded _ _⟩

end Switchboard
