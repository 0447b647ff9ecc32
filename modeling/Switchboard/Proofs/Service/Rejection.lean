import Switchboard.Proofs.Service.Hiding
import Switchboard.Proofs.Service.Mutation

/-!
# What a rejected registration leaves behind

A responder that declares and registers functions in order stops at the first one that is rejected.
What it has registered before stays: nothing is rolled back, and the rejected one leaves nothing.

* `Caches.Gains`: caches are as before, but for what registrations have put in. `gains_of_add` is
  the case of one, and `Gains.trans` puts two after one another.
* `Registration.Rejected`: why a registration is rejected after others, and with which text. It is
  so exactly when its declaration or the cache refuses it (`rejected_of_add`,
  `not_rejected_of_add`).
* `Registration.Parts`: a responder has carried out the first part of its registrations and not the
  rest. `parts_run`: so does every responder that registers in order, by induction on what it
  registers.
* **`registrations_left`**: what the request leaves in the caches, and that it fails when it is
  repeated.
-/

namespace Switchboard

/-! ### What registrations put in -/

namespace Registration

/-- The key under which a function is registered for a session. -/
def key (session : String) (r : Registration) : CacheKey := ⟨session, r.assistant⟩

/-- **The registration declares the function** for a key of a cache. -/
structure Declares (session : String) (r : Registration) (kind : CacheKind) (key : CacheKey)
    (d : ToolDefinition) : Prop where
  kind_eq : r.kind = kind
  key_eq : r.key session = key
  build_eq : r.draft.build = .ok d

end Registration

/-- **The caches are as before and have what the registrations declare**, and nothing else. -/
structure Caches.Gains (session : String) (now : Nat) (done : List Registration) (cs cs' : Caches) :
    Prop where
  /-- A function is found if it was found before or has been registered. -/
  functions : ∀ kind key name d, (cs'.of kind).function key name = .ok d ↔
    (cs.of kind).function key name = .ok d ∨
      ∃ r ∈ done, r.Declares session kind key d ∧ d.name = name
  /-- A key has an entry if it had one before or something has been registered under it. -/
  keys : ∀ kind key, (cs'.of kind).contains key = true ↔
    (cs.of kind).contains key = true ∨ ∃ r ∈ done, r.kind = kind ∧ r.key session = key
  /-- An entry is the one from before, or a new one, with more functions. -/
  origin : ∀ kind key e, (cs'.of kind).entries.get? key = some e →
    e.key = (((cs.of kind).entries.get? key).getD (.new key now)).key ∧
      e.created = (((cs.of kind).entries.get? key).getD (.new key now)).created
  /-- An entry under whose key nothing has been registered is as it was before. -/
  others : ∀ kind key, (∀ r ∈ done, r.kind = kind → r.key session ≠ key) →
    (cs'.of kind).entries.get? key = (cs.of kind).entries.get? key
  /-- The kind of a cache and the time of its last purge are as before. -/
  frame : ∀ kind, (cs'.of kind).kind = (cs.of kind).kind ∧
    (cs'.of kind).lastPurge = (cs.of kind).lastPurge

namespace Caches

variable {session : String} {now : Nat} {cs cs₁ cs₂ : Caches} {done done' : List Registration}
  {r : Registration} {d : ToolDefinition}

/-- Caches that stay as they are have gained nothing. -/
theorem Gains.refl (cs : Caches) : cs.Gains session now [] cs := by
  refine ⟨fun kind key name d => ?_, fun kind key => ?_, fun kind key e he => ?_,
    fun _ _ _ => rfl, fun _ => ⟨rfl, rfl⟩⟩
  · simp
  · simp
  · rw [he]
    exact ⟨rfl, rfl⟩

/-- No entry is taken out. -/
theorem Gains.eq_none (h : cs.Gains session now done cs₁) {kind : CacheKind} {key : CacheKey}
    (hnone : (cs₁.of kind).entries.get? key = none) : (cs.of kind).entries.get? key = none := by
  rw [← FunctionCache.contains_eq_false_iff] at hnone ⊢
  rw [Bool.eq_false_iff] at hnone ⊢
  intro hthere
  exact hnone ((h.keys kind key).2 (.inl hthere))

/-- What is registered after one another adds up. -/
theorem Gains.trans (h : cs.Gains session now done cs₁)
    (h' : cs₁.Gains session now done' cs₂) :
    cs.Gains session now (done ++ done') cs₂ := by
  constructor
  case functions =>
    intro kind key name d
    rw [h'.functions, h.functions, or_assoc]
    simp only [List.mem_append, or_and_right, exists_or]
  case keys =>
    intro kind key
    rw [h'.keys, h.keys, or_assoc]
    simp only [List.mem_append, or_and_right, exists_or]
  case origin =>
    intro kind key e he
    have horigin := h'.origin kind key e he
    cases hmiddle : (cs₁.of kind).entries.get? key with
    | some e₁ =>
        obtain ⟨hkey, hcreated⟩ := h.origin kind key e₁ hmiddle
        rw [hmiddle] at horigin
        exact ⟨horigin.1.trans hkey, horigin.2.trans hcreated⟩
    | none =>
        rw [hmiddle] at horigin
        rw [h.eq_none hmiddle]
        exact horigin
  case others =>
    intro kind key hother
    rw [h'.others kind key fun r hr => hother r (List.mem_append_right _ hr),
      h.others kind key fun r hr => hother r (List.mem_append_left _ hr)]
  case frame =>
    intro kind
    exact ⟨(h'.frame kind).1.trans (h.frame kind).1, (h'.frame kind).2.trans (h.frame kind).2⟩

/-- A function is found in the entry of its key, or in a new one, where there is nothing to find. -/
theorem function_iff_getD {c : FunctionCache} {key : CacheKey} {name : String} (now : Nat) :
    c.function key name = .ok d ↔
      ((c.entries.get? key).getD (.new key now)).get? name = some d := by
  rw [FunctionCache.function_eq_ok_iff]
  cases c.entries.get? key <;> simp

/-- A registration is refused where there is a function of its name already. -/
theorem add_eq_error_iff {kind : CacheKind} {key : CacheKey} {e : CacheError} :
    cs.add kind now key d = .error e ↔
      (∃ old, (cs.of kind).function key d.name = .ok old) ∧
        e = .alreadyDeclared (cs.of kind).kind key d.name := by
  unfold add
  rcases FunctionCache.add_cases (cs.of kind) now key d with
    ⟨entry, old, hentry, hold, hadd⟩ | ⟨_, rfl, hfresh, hadd⟩
  · have hfound : (cs.of kind).function key d.name = .ok old :=
      FunctionCache.function_eq_ok_iff.2 ⟨entry, hentry, hold⟩
    simp [hadd, hfound, Except.map, eq_comm]
  · simp [hadd, function_iff_getD now, hfresh, Except.map]

/-- A registration changes neither the kind of a cache nor the time of its last purge. -/
theorem frame_of_add {kind : CacheKind} {key : CacheKey} (h : cs.add kind now key d = .ok cs₁)
    (kind' : CacheKind) :
    (cs₁.of kind').kind = (cs.of kind').kind ∧
    (cs₁.of kind').lastPurge = (cs.of kind').lastPurge := by
  unfold add at h
  rcases FunctionCache.add_cases (cs.of kind) now key d with
    ⟨_, _, _, _, hadd⟩ | ⟨_, -, -, hadd⟩
  · rw [hadd] at h
    cases h
  · rw [hadd] at h
    cases h
    rw [of_set]
    split
    · next hkind =>
      rw [hkind]
      exact ⟨rfl, rfl⟩
    · exact ⟨rfl, rfl⟩

/-- A registration that is accepted puts in what it declares. -/
theorem gains_of_add (hbuild : r.draft.build = .ok d)
    (h : cs.add r.kind now (r.key session) d = .ok cs₁) :
    cs.Gains session now [r] cs₁ := by
  obtain ⟨e, he, hfresh, hget⟩ := add_eq_ok h
  have hother : ∀ {kind key}, ¬ (kind = r.kind ∧ key = r.key session) →
      (cs₁.of kind).entries.get? key = (cs.of kind).entries.get? key := by
    intro kind key hne
    rw [hget, if_neg hne]
  have hnew : (cs₁.of r.kind).entries.get? (r.key session) = some (e.insert d) := by
    rw [hget, if_pos ⟨rfl, rfl⟩]
  constructor
  case functions =>
    intro kind key name d'
    simp only [List.mem_singleton, exists_eq_left]
    by_cases hplace : kind = r.kind ∧ key = r.key session
    · obtain ⟨rfl, rfl⟩ := hplace
      have hdeclares : r.Declares session r.kind (r.key session) d' ↔ d = d' := by
        constructor
        · intro hd'
          exact Except.ok.inj (hbuild.symm.trans hd'.build_eq)
        · rintro rfl
          exact ⟨rfl, rfl, hbuild⟩
      rw [function_iff_getD now, function_iff_getD now, hnew, ← he, hdeclares, Option.getD_some,
        Entry.get?_insert]
      by_cases hname : name = d.name
      · rw [if_pos hname, hname, hfresh]
        constructor
        · intro hd'
          obtain rfl := Option.some.inj hd'
          exact .inr ⟨rfl, rfl⟩
        · rintro (hold | ⟨rfl, -⟩)
          · cases hold
          · rfl
      · rw [if_neg hname]
        apply Iff.symm (or_iff_left _)
        rintro ⟨rfl, hname'⟩
        exact hname hname'.symm
    · have hnone : ¬ r.Declares session kind key d' := by
        intro hd'
        exact hplace ⟨hd'.kind_eq.symm, hd'.key_eq.symm⟩
      rw [FunctionCache.function_eq_ok_iff, FunctionCache.function_eq_ok_iff, hother hplace]
      simp [hnone]
  case keys =>
    intro kind key
    simp only [List.mem_singleton, exists_eq_left]
    by_cases hplace : kind = r.kind ∧ key = r.key session
    · obtain ⟨rfl, rfl⟩ := hplace
      simp [FunctionCache.contains_iff, hnew]
    · have hnone : ¬ (r.kind = kind ∧ r.key session = key) := by
        rintro ⟨rfl, rfl⟩
        exact hplace ⟨rfl, rfl⟩
      rw [FunctionCache.contains_iff, FunctionCache.contains_iff, hother hplace]
      simp [hnone]
  case origin =>
    intro kind key e' he'
    by_cases hplace : kind = r.kind ∧ key = r.key session
    · obtain ⟨rfl, rfl⟩ := hplace
      obtain rfl := Option.some.inj (hnew.symm.trans he')
      rw [← he]
      exact ⟨rfl, rfl⟩
    · rw [hother hplace] at he'
      rw [he']
      exact ⟨rfl, rfl⟩
  case others =>
    intro kind key hall
    apply hother
    rintro ⟨rfl, rfl⟩
    exact hall r List.mem_cons_self rfl rfl
  case frame => exact frame_of_add h

end Caches

/-! ### Why a registration is rejected -/

namespace Registration

/-- **A registration is rejected**, after others: its declaration is faulty, or there is a function
of its name already, from before or from one of the others. The text is that of the error. -/
inductive Rejected (session : String) (cs : Caches) (earlier : List Registration)
    (r : Registration) : String → Prop where
  | faulty {e : DefinitionError} (h : r.draft.build = .error e) :
      Rejected session cs earlier r e.message
  | declared {d old : ToolDefinition} (h : r.draft.build = .ok d)
      (hold : (cs.of r.kind).function (r.key session) d.name = .ok old) :
      Rejected session cs earlier r
        (CacheError.alreadyDeclared (cs.of r.kind).kind (r.key session) d.name).message
  | repeated {d d' : ToolDefinition} {r' : Registration} (h : r.draft.build = .ok d)
      (hr' : r' ∈ earlier) (hdeclares : r'.Declares session r.kind (r.key session) d')
      (hname : d'.name = d.name) :
      Rejected session cs earlier r
        (CacheError.alreadyDeclared (cs.of r.kind).kind (r.key session) d.name).message

variable {session : String} {now : Nat} {cs cs₀ cs₁ : Caches}
  {earlier done rest : List Registration} {r : Registration} {d : ToolDefinition}
  {last : Outcome Json}

/-- What the cache refuses is rejected. -/
theorem rejected_of_add (h : cs₀.Gains session now earlier cs) (hbuild : r.draft.build = .ok d)
    {e : CacheError} (hadd : cs.add r.kind now (r.key session) d = .error e) :
    r.Rejected session cs₀ earlier e.message := by
  obtain ⟨⟨old, hold⟩, rfl⟩ := Caches.add_eq_error_iff.1 hadd
  rw [(h.frame r.kind).1]
  rcases (h.functions _ _ _ _).1 hold with hbefore | ⟨r', hr', hdeclares, hname⟩
  · exact .declared hbuild hbefore
  · exact .repeated hbuild hr' hdeclares hname

/-- What the cache takes is not rejected. -/
theorem not_rejected_of_add (h : cs₀.Gains session now earlier cs)
    (hbuild : r.draft.build = .ok d) (hadd : cs.add r.kind now (r.key session) d = .ok cs₁)
    (text : String) : ¬ r.Rejected session cs₀ earlier text := by
  have hnone : ∀ old, (cs.of r.kind).function (r.key session) d.name ≠ .ok old := by
    intro old hold
    rw [Caches.add_eq_error_iff.2 ⟨⟨old, hold⟩, rfl⟩] at hadd
    cases hadd
  intro hrejected
  cases hrejected with
  | faulty hfaulty =>
      rw [hbuild] at hfaulty
      cases hfaulty
  | declared hbuild' hold =>
      obtain rfl := Except.ok.inj (hbuild.symm.trans hbuild')
      exact hnone _ ((h.functions _ _ _ _).2 (.inl hold))
  | repeated hbuild' hr' hdeclares hname =>
      obtain rfl := Except.ok.inj (hbuild.symm.trans hbuild')
      exact hnone _ ((h.functions _ _ _ _).2 (.inr ⟨_, hr', hdeclares, hname⟩))

/-- **None of the registrations is rejected** after those before it. -/
inductive Accepted (session : String) (cs : Caches) : List Registration → Prop where
  | nil : Accepted session cs []
  | concat {done : List Registration} {r : Registration} (h : Accepted session cs done)
      (hr : ∀ text, ¬ r.Rejected session cs done text) : Accepted session cs (done ++ [r])

/-- What is accepted has been declared. -/
theorem Accepted.declares (h : Accepted session cs done) (hr : r ∈ done) :
    ∃ d, r.Declares session r.kind (r.key session) d := by
  induction h with
  | nil => cases hr
  | @concat done r' h hr' ih =>
      rcases List.mem_append.1 hr with hold | hlast
      · exact ih hold
      · obtain rfl := List.mem_singleton.1 hlast
        cases hbuild : r.draft.build with
        | ok d => exact ⟨d, rfl, rfl, hbuild⟩
        | error e => exact absurd (.faulty hbuild) (hr' e.message)

/-! ### What a responder carries out -/

/-- **A responder has carried out the first part of its registrations**: none of it is rejected, the
first of the rest is, and the caches have gained what the first part declares. -/
structure Parts (session : String) (now : Nat) (cs : Caches) (last : Outcome Json)
    (done rest : List Registration) (result : Caches × Outcome Json) : Prop where
  accepted : Accepted session cs done
  gains : cs.Gains session now done result.1
  /-- If there is no rest, the responder ends as it is to end. -/
  finished : rest = [] → result.2 = last
  /-- It fails with the error of the first one that is rejected. -/
  stopped : ∀ r later, rest = r :: later →
    ∃ text, r.Rejected session cs done text ∧ result.2 = .failed (.ofText text)

/-- What is rejected at once leaves the caches alone and is what the responder fails with. -/
theorem run_of_rejected {text : String} (h : r.Rejected session cs [] text) (now : Nat)
    (last : Outcome Json) (rest : List Registration) :
    (Script.ofRegistrations last (r :: rest)).run session now cs =
      (cs, .failed (.ofText text)) := by
  unfold Script.ofRegistrations
  cases h with
  | faulty hbuild =>
      rw [hbuild]
      rfl
  | @declared d old hbuild hold =>
      have hadd : cs.add r.kind now ⟨session, r.assistant⟩ d =
          .error (.alreadyDeclared (cs.of r.kind).kind (r.key session) d.name) :=
        Caches.add_eq_error_iff.2 ⟨⟨old, hold⟩, rfl⟩
      rw [hbuild]
      dsimp only
      unfold Script.run
      rw [hadd]
      rfl
  | repeated _ hr' => cases hr'

/-- After a part of its registrations a responder carries out a part of the others. -/
theorem parts_run_from (regs : List Registration) (haccepted : Accepted session cs₀ earlier)
    (hgains : cs₀.Gains session now earlier cs) :
    ∃ done rest, earlier ++ regs = done ++ rest ∧
      Parts session now cs₀ last done rest
        ((Script.ofRegistrations last regs).run session now cs) := by
  induction regs generalizing earlier cs with
  | nil =>
      refine ⟨earlier, [], rfl, haccepted, hgains, fun _ => rfl, fun r later hr => ?_⟩
      cases hr
  | cons r rest ih =>
      unfold Script.ofRegistrations
      cases hbuild : r.draft.build with
      | error e =>
          refine ⟨earlier, r :: rest, rfl, haccepted, hgains, fun hnil => ?_,
            fun r' later heq => ?_⟩
          · cases hnil
          · cases heq
            exact ⟨e.message, .faulty hbuild, rfl⟩
      | ok d =>
          dsimp only
          unfold Script.run
          cases hadd : cs.add r.kind now ⟨session, r.assistant⟩ d with
          | error e =>
              refine ⟨earlier, r :: rest, rfl, haccepted, hgains, fun hnil => ?_,
                fun r' later heq => ?_⟩
              · cases hnil
              · cases heq
                exact ⟨e.message, rejected_of_add hgains hbuild hadd, rfl⟩
          | ok cs₁ =>
              have hnext : Accepted session cs₀ (earlier ++ [r]) :=
                haccepted.concat (not_rejected_of_add hgains hbuild hadd)
              obtain ⟨done, rest', heq, hparts⟩ :=
                ih hnext (hgains.trans (Caches.gains_of_add hbuild hadd))
              rw [List.append_assoc, List.singleton_append] at heq
              exact ⟨done, rest', heq, hparts⟩

/-- **A responder that registers in order carries out a first part**, up to what is rejected. -/
theorem parts_run (session : String) (now : Nat) (cs : Caches) (last : Outcome Json)
    (regs : List Registration) :
    ∃ done rest, regs = done ++ rest ∧
      Parts session now cs last done rest ((Script.ofRegistrations last regs).run session now cs) :=
  parts_run_from regs .nil (.refl cs)

end Registration

namespace State

variable {s : State} {r : Request} {m : Mount} {payload : Json}

/-! ### What a request for an assistant leaves behind -/

/-- What the client is told when the responder for assistants fails with an error of the given text:
in production nothing but that the service has failed. -/
def failureResponse (production : Bool) (text : String) : Response :=
  if production then .json 500 (.object [("error", .str "internal server error")])
  else .text 500 ("assistant-request responder failed" ++ "\nCaused by: " ++ text)

section asked

variable {responder : AssistantRequest → Script} {session : String}
  (h : s.accepted? r = some (m, payload))
  (htype : RequestType.ofPayload payload = .assistantRequest)
  (hresponder : m.application.assistant = some responder)
  (hsession : sessionOf? (messageOf payload) = some session)

include htype hresponder hsession in
/-- The responder is asked, and the caches are left as it leaves them. -/
theorem caches_dispatched_of_asked : (s.dispatched m payload).caches =
    ((responder ⟨session, m.path, payload⟩).run session s.now m.caches).1 := by
  show (dispatch _ _ _ _ (RequestType.ofPayload payload) payload).caches = _
  rw [htype]
  show (dispatchAssistant _ _ m.application m.caches payload (messageOf payload)).caches = _
  unfold dispatchAssistant
  rw [hresponder, hsession]
  rfl

include h htype hresponder hsession in
/-- If the responder fails, the client is told so. -/
theorem response_serve_of_failed {text : String} (clock : Nat → String)
    (hfailed : ((responder ⟨session, m.path, payload⟩).run session s.now m.caches).2 =
      .failed (.ofText text)) :
    (s.serve clock r).1 = .ok (failureResponse s.settings.production text) := by
  have hresponds : Responds s.now m.application m.caches payload (.failed (.ofText text)) :=
    hfailed ▸ .assistant htype hresponder hsession
  have htext : "assistant-request responder failed" ++ "\nCaused by: " ++ text =
      Fault.causeMark.intercalate ["assistant-request responder failed", text] :=
    Except.ok.inj (Fault.appendCauses_ok "assistant-request responder failed" [text])
  have hsays : (Fault.ofText text).Says [text] := rfl
  rw [response_serve h, concluded_of_failed hresponds hsays, htype, failureResponse, htext]
  rfl

include h htype hresponder hsession in
/-- If the first registration is rejected, the request fails and leaves all caches as they are. -/
theorem serve_of_first_rejected {text : String} {first : Registration} {last : Outcome Json}
    {rest : List Registration} (hs : (s.mounts.map Mount.path).Nodup) (clock : Nat → String)
    (hscript : responder ⟨session, m.path, payload⟩ = .ofRegistrations last (first :: rest))
    (hrejected : first.Rejected session m.caches [] text) :
    (s.serve clock r).1 = .ok (failureResponse s.settings.production text) ∧
      (s.serve clock r).2.mounts = s.mounts := by
  have hrun := Registration.run_of_rejected hrejected s.now last rest
  rw [← hscript] at hrun
  constructor
  · exact response_serve_of_failed h htype hresponder hsession clock (congrArg Prod.snd hrun)
  · apply mounts_serve_of_caches h clock hs
    rw [caches_dispatched_of_asked htype hresponder hsession, hrun]

end asked

/-- **The request leaves a first part of its registrations behind.** -/
structure LeavesBehind (clock : Nat → String) (s : State) (r : Request) (m : Mount)
    (payload : Json) (session : String) (last : Outcome Json) (done rest : List Registration) :
    Prop where
  /-- None of that part is rejected. -/
  accepted : Registration.Accepted session m.caches done
  /-- The caches of the application have gained what that part declares. -/
  gains : ∃ cs, (s.serve clock r).2.caches? m.path = some cs ∧
    m.caches.Gains session s.now done cs
  /-- Those of other applications are as they were. -/
  others : ∀ path, path ≠ m.path → (s.serve clock r).2.caches? path = s.caches? path
  /-- If there is no rest, the responder ends as it is to end. -/
  finished : rest = [] → Responds s.now m.application m.caches payload last
  /-- If there is a rest, its first registration is rejected, and the request fails with that. -/
  stopped : ∀ first later, rest = first :: later →
    ∃ text, first.Rejected session m.caches done text ∧
    (s.serve clock r).1 = .ok (failureResponse s.settings.production text)
  /-- As long as the entry of the first of these registrations is there, the request fails when it
  is repeated, and leaves all caches as they are. -/
  repeated : ∀ first later, done = first :: later → ∀ steps,
    (s.serve clock r).2.Throughout clock
      (fun s step =>
        ((s.perform clock step).lookup? m.path first.kind (first.key session)).isSome = true)
      steps →
    ∃ text, (((s.serve clock r).2.after clock steps).serve clock r).1 =
        .ok (failureResponse s.settings.production text) ∧
      (((s.serve clock r).2.after clock steps).serve clock r).2.mounts =
        ((s.serve clock r).2.after clock steps).mounts

/-- A request is accepted again later, by the same application. -/
theorem accepted?_after (h : s.accepted? r = some (m, payload)) (clock : Nat → String)
    (steps : List Step) :
    ∃ m', (s.after clock steps).accepted? r = some (m', payload) ∧
      m'.application = m.application := by
  have hsame := accepted?_congr (settings_after clock s steps) (applications_after clock s steps) r
  rw [h] at hsame
  obtain ⟨⟨m', payload'⟩, h', heq⟩ := Option.map_eq_some_iff.1 hsame
  obtain ⟨happ, rfl⟩ := Prod.mk.inj heq
  exact ⟨m', h', happ⟩

/-- **A request for an assistant leaves exactly those of its registrations behind that come before
the first one that is rejected**, however its responder ends after the last, in a service whose
applications have different paths, as those of every service that starts have
(`paths_nodup_of_build`). -/
theorem registrations_left {responder : AssistantRequest → Script} {session : String}
    {last : Outcome Json} {regs : List Registration} (hs : (s.mounts.map Mount.path).Nodup)
    (clock : Nat → String) (h : s.accepted? r = some (m, payload))
    (htype : RequestType.ofPayload payload = .assistantRequest)
    (hresponder : m.application.assistant = some responder)
    (hsession : sessionOf? (messageOf payload) = some session)
    (hscript : responder ⟨session, m.path, payload⟩ = .ofRegistrations last regs) :
    ∃ done rest, regs = done ++ rest ∧
      s.LeavesBehind clock r m payload session last done rest := by
  obtain ⟨done, rest, hregs, hparts⟩ := Registration.parts_run session s.now m.caches last regs
  rw [← hscript] at hparts
  have hcaches : (s.serve clock r).2.caches? m.path =
      some ((responder ⟨session, m.path, payload⟩).run session s.now m.caches).1 := by
    rw [caches?_serve h, caches?_of_mem hs (mem_of_accepted? h), Option.map_some, if_pos rfl,
      caches_dispatched_of_asked htype hresponder hsession]
  refine ⟨done, rest, hregs, ?_⟩
  constructor
  case accepted => exact hparts.accepted
  case gains => exact ⟨_, hcaches, hparts.gains⟩
  case others =>
    intro path hpath
    rw [caches?_serve h]
    simp [hpath]
  case finished =>
    intro hrest
    rw [← hparts.finished hrest]
    exact .assistant htype hresponder hsession
  case stopped =>
    intro first later hrest
    obtain ⟨text, hrejected, hfailed⟩ := hparts.stopped first later hrest
    exact ⟨text, hrejected, response_serve_of_failed h htype hresponder hsession clock hfailed⟩
  case repeated =>
    intro first later hdone steps hstays
    have hs' : ((s.serve clock r).2.mounts.map Mount.path).Nodup :=
      paths_nodup_perform hs clock (.request r)
    -- the function of the first registration is in its entry, now and later
    have hmem : first ∈ done := hdone ▸ List.mem_cons_self
    obtain ⟨d, hdeclares⟩ := hparts.accepted.declares hmem
    obtain ⟨e, he, hd⟩ := FunctionCache.function_eq_ok_iff.1
      ((hparts.gains.functions _ _ d.name d).2 (.inr ⟨first, hmem, hdeclares, rfl⟩))
    have hlookup : (s.serve clock r).2.lookup? m.path first.kind (first.key session) = some e := by
      rw [lookup?, hcaches]
      exact he
    obtain ⟨e', he', hextends⟩ := extends_after_of_stays hs' hlookup hstays
    -- the request comes to the same responder again
    obtain ⟨m', h', happ⟩ := accepted?_after h clock (.request r :: steps)
    have hpath : m'.path = m.path := congrArg Application.serverPath happ
    have hthere : (m'.caches.of first.kind).entries.get? (first.key session) = some e' := by
      rw [← hpath, lookup?_of_mem (paths_nodup_after hs' clock steps) (mem_of_accepted? h')]
        at he'
      exact he'
    have hrejected : first.Rejected session m'.caches [] _ :=
      .declared hdeclares.build_eq
        (FunctionCache.function_eq_ok_iff.2 ⟨e', hthere, hextends.functions hd⟩)
    have hscript' : responder ⟨session, m'.path, payload⟩ =
        .ofRegistrations last (first :: (later ++ rest)) := by
      rw [hpath, hscript, hregs, hdone]
      rfl
    have hresponder' : m'.application.assistant = some responder := happ ▸ hresponder
    have hsettings : ((s.serve clock r).2.after clock steps).settings = s.settings :=
      settings_after clock s (.request r :: steps)
    rw [← hsettings]
    exact ⟨_, serve_of_first_rejected h' htype hresponder' hsession
      (paths_nodup_after hs' clock steps) clock hscript' hrejected⟩

/-- The responder of the service registers the weather tool, and fails to register a tool without a
name: the weather tool is left behind. -/
theorem registrations_left_nameless :
    ∃ m payload responder,
      (namelessService.mounts.map Mount.path).Nodup ∧
      namelessService.accepted? (weatherPost "assistant-request" "a") = some (m, payload) ∧
      RequestType.ofPayload payload = .assistantRequest ∧
      m.application.assistant = some responder ∧
      sessionOf? (messageOf payload) = some "a" ∧
      responder ⟨"a", m.path, payload⟩ =
        .ofRegistrations (.returned .null) [weatherTool, namelessTool] ∧
      namelessService.LeavesBehind (fun time => toString time) (weatherPost "assistant-request" "a")
        m payload "a" (.returned .null) [weatherTool] [namelessTool] := by
  have hs : (namelessService.mounts.map Mount.path).Nodup := List.nodup_singleton _
  have haccepted : (namelessService.accepted? (weatherPost "assistant-request" "a")).any (fun a =>
      RequestType.ofPayload a.2 = .assistantRequest &&
        sessionOf? (messageOf a.2) = some "a") = true := by
    decide +kernel
  obtain ⟨⟨m, payload⟩, h, hmessage⟩ := (Option.any_eq_true _ _).1 haccepted
  obtain ⟨htype, hsession⟩ : RequestType.ofPayload payload = .assistantRequest ∧
      sessionOf? (messageOf payload) = some "a" := by
    simpa using hmessage
  have hm := List.mem_singleton.1 (mem_of_accepted? h)
  have hresponder : m.application.assistant =
      some fun _ => .ofRegistrations (.returned .null) [weatherTool, namelessTool] := by rw [hm]
  refine ⟨m, payload, _, hs, h, htype, hresponder, hsession, rfl, ?_⟩
  obtain ⟨done, rest, hparts, hleft⟩ :=
    registrations_left hs (fun time => toString time) h htype hresponder hsession rfl
  obtain ⟨d, hweather⟩ : ∃ d, weatherTool.draft.build = .ok d := ⟨_, rfl⟩
  obtain ⟨e, hnameless⟩ : ∃ e, namelessTool.draft.build = .error e := ⟨_, rfl⟩
  match done, hparts, hleft with
  | [], hparts, hleft =>
      obtain rfl : [weatherTool, namelessTool] = rest := hparts
      obtain ⟨text, hrejected, -⟩ := hleft.stopped weatherTool _ rfl
      rw [hm] at hrejected
      cases hrejected with
      | faulty hfaulty =>
          rw [hweather] at hfaulty
          cases hfaulty
      | declared _ hold => cases hold
      | repeated _ hr' => cases hr'
  | [first], hparts, hleft =>
      obtain ⟨rfl, rfl⟩ : weatherTool = first ∧ [namelessTool] = rest := List.cons.inj hparts
      exact hleft
  | first :: second :: more, hparts, hleft =>
      obtain ⟨-, hrest⟩ := List.cons.inj hparts
      obtain ⟨rfl, -⟩ := List.cons.inj hrest
      obtain ⟨d', hdeclares⟩ :=
        hleft.accepted.declares (List.mem_cons_of_mem _ List.mem_cons_self)
      have hbuild := hdeclares.build_eq
      rw [hnameless] at hbuild
      cases hbuild

end State

end Switchboard
