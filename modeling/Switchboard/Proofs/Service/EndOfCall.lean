import Switchboard.Proofs.Service.Entries

/-!
# The end of a call is final

An application that is to forget calls takes the entries of a session out of its caches when the end
of the call is reported. From then on messages of the session find nothing, until an assistant is
asked for in its name again.

* `RequestType.asksOf?`, `State.FindsNothing`: messages that ask for calls, and what becomes of one
  whose session has no entries.
* `serve_of_vacant`: every such message finds nothing, whatever the assistant.
* **`endOfCall_final`**: a report takes out its session and nothing else, for good; further reports
  change nothing; and where the application does not forget calls, or no call is named, nothing is
  taken out.

Three facts carry the result: a report makes its session vacant, no step but a request for an
assistant ends that (`vacant_after`), and a vacant session is refused.
-/

namespace Switchboard

/-- The kind of the calls that a message of a type asks for. -/
def RequestType.asksOf? : RequestType → Option CacheKind
  | toolCalls => some .toolCall
  | functionCall => some .function
  | _ => none

/-- How the report of the end of a call is answered. -/
def endOfCallAcknowledgement : Response :=
  .json 200 (Answer.acknowledgement RequestType.endOfCallReport.name).toJson

/-- A message that asks for calls is refused where its key has no entry, before a handler is run. -/
theorem dispatch_of_absent {t : RequestType} {kind : CacheKind} {payload : Json} {key : CacheKey}
    {cs : Caches} (ht : t.asksOf? = some kind) (hkey : keyOf (messageOf payload) = .ok key)
    (habsent : (cs.of kind).entries.get? key = none) (production : Bool) (now : Nat)
    (app : Application) :
    dispatch production now app cs t payload =
      .ended (.refused (.api (.ofCacheError (.notFound (cs.of kind).kind key)))) cs := by
  have hget : (cs.of kind).get key = .error (.notFound (cs.of kind).kind key) :=
    FunctionCache.get_eq_error_iff.2 ⟨habsent, rfl⟩
  cases t <;> cases ht
  case toolCalls =>
    show dispatchToolCalls cs (messageOf payload) = _
    unfold dispatchToolCalls
    rw [hkey]
    dsimp only
    rw [show cs.tools.get key = _ from hget]
  case functionCall =>
    show dispatchFunctionCall cs (messageOf payload) = _
    unfold dispatchFunctionCall
    rw [hkey]
    dsimp only
    rw [show cs.functions.get key = _ from hget]

/-- The report of the end of a call is acknowledged, whatever it finds. -/
theorem ending_endOfCall (production : Bool) (now : Nat) (app : Application) (cs : Caches)
    (payload : Json) :
    (dispatch production now app cs .endOfCallReport payload).ending =
      .answered (.acknowledgement RequestType.endOfCallReport.name) :=
  rfl

/-- The end of a session that has no entries takes nothing out. -/
theorem FunctionCache.removeSession_of_vacant {c : FunctionCache} {session : String}
    (h : ∀ assistant, c.entries.get? ⟨session, assistant⟩ = none) :
    (c.removeSession session).2 = c := by
  refine eq_of_get? (kind_removeSession c session) (lastPurge_removeSession c session) fun k => ?_
  rw [get?_removeSession]
  split
  · next hk =>
    subst hk
    exact (h k.assistant).symm
  · rfl

namespace State

variable {s : State} {r : Request} {m : Mount} {payload : Json} {path session : String}
  {t : RequestType} {kind : CacheKind}

/-! ## Messages of a vacant session -/

/-- **The message finds nothing**: the client is told which entry is missing, no handler is run, and
the caches stay as they are. -/
structure FindsNothing (clock : Nat → String) (s : State) (r : Request)
    (kind : CacheKind) (m : Mount) (key : CacheKey) : Prop where
  answer : (s.serve clock r).1 =
    .ok (.json 404 (errorBody (CacheError.notFound (m.caches.of kind).kind key).message))
  handlerCalls : (s.serve clock r).2.handlerCalls = s.handlerCalls
  mounts : (s.serve clock r).2.mounts = s.mounts

/-- Whatever the assistant that it names, a message of a vacant session finds nothing. -/
theorem serve_of_vacant (hs : (s.mounts.map Mount.path).Nodup) (clock : Nat → String)
    (hvacant : s.Vacant m.path session) (ht : t.asksOf? = some kind)
    (h : s.accepted? r = some (m, payload)) (htype : RequestType.ofPayload payload = t)
    (hsession : sessionOf? (messageOf payload) = some session) :
    s.FindsNothing clock r kind m ⟨session, assistantOf (messageOf payload)⟩ := by
  have habsent := hvacant kind (assistantOf (messageOf payload))
  rw [lookup?_of_mem hs (mem_of_accepted? h)] at habsent
  have hdispatched :=
    dispatch_of_absent ht (keyOf_of_sessionOf? hsession) habsent s.settings.production s.now
    m.application
  rw [← htype] at hdispatched
  have hended : s.dispatched m payload = _ := hdispatched
  refine ⟨?_, ?_, ?_⟩
  · rw [response_serve_of_refused h clock (e := .ofCacheError (.notFound _ _)) rfl
      (by rw [hended]; rfl)]
    rfl
  · rw [handlerCalls_serve h, hended]
    exact List.append_nil _
  · exact mounts_serve_of_caches h clock hs (by rw [hended]; rfl)

/-! ## Reports of the end of a call -/

/-- An accepted report is answered by its acknowledgement. -/
theorem response_serve_report (h : s.accepted? r = some (m, payload))
    (htype : RequestType.ofPayload payload = .endOfCallReport) (clock : Nat → String) :
    (s.serve clock r).1 = .ok endOfCallAcknowledgement := by
  refine response_serve_of_answered h clock ?_
  rw [dispatched, htype, ending_endOfCall]

/-- A report of an application that keeps its entries, or of no call, takes nothing out. -/
theorem mounts_serve_report_of_kept (hs : (s.mounts.map Mount.path).Nodup)
    (h : s.accepted? r = some (m, payload))
    (htype : RequestType.ofPayload payload = .endOfCallReport)
    (hkept : m.application.config.removeCacheOnEndOfCallReport = false ∨
      sessionOf? (messageOf payload) = none) (clock : Nat → String) :
    (s.serve clock r).2.mounts = s.mounts := by
  refine mounts_serve_of_caches h clock hs ?_
  rcases caches_dispatch_cases s.settings.production s.now m.application m.caches
      (RequestType.ofPayload payload) payload with
    hcaches | ⟨_, _, hother, -⟩ | ⟨session, -, hflag, hsession, -⟩
  · exact hcaches
  · rw [htype] at hother
    cases hother
  · rcases hkept with hkept | hkept
    · rw [hflag] at hkept
      cases hkept
    · rw [hsession] at hkept
      cases hkept

/-- A report of a session takes out what the session has and nothing else. -/
theorem lookup?_serve_report (hs : (s.mounts.map Mount.path).Nodup)
    (h : s.accepted? r = some (m, payload))
    (htype : RequestType.ofPayload payload = .endOfCallReport)
    (hflag : m.application.config.removeCacheOnEndOfCallReport = true)
    (hsession : sessionOf? (messageOf payload) = some session) (clock : Nat → String)
    (path : String) (kind : CacheKind) (key : CacheKey) :
    (s.serve clock r).2.lookup? path kind key =
      if path = m.path ∧ key.session = session then none else s.lookup? path kind key := by
  have hcaches : (s.dispatched m payload).caches = (m.caches.removeSession session).2 := by
    show (dispatch _ _ _ _ (RequestType.ofPayload payload) payload).caches = _
    rw [htype]
    show (dispatchEndOfCall m.application m.caches (messageOf payload)).caches = _
    unfold dispatchEndOfCall
    rw [hflag, hsession]
    rfl
  rw [lookup?_serve hs h, hcaches, Caches.of_removeSession, FunctionCache.get?_removeSession]
  by_cases hpath : path = m.path
  · subst hpath
    rw [lookup?_of_mem hs (mem_of_accepted? h), if_pos rfl]
    simp only [true_and]
  · rw [if_neg hpath, if_neg (fun hboth => hpath hboth.1)]

/-- A further report of a session that has ended changes nothing in the caches. -/
theorem mounts_serve_report_of_vacant (hs : (s.mounts.map Mount.path).Nodup)
    (hvacant : s.Vacant m.path session) (h : s.accepted? r = some (m, payload))
    (htype : RequestType.ofPayload payload = .endOfCallReport)
    (hsession : sessionOf? (messageOf payload) = some session) (clock : Nat → String) :
    (s.serve clock r).2.mounts = s.mounts := by
  refine mounts_serve_of_caches h clock hs ?_
  have hnone : ∀ kind assistant,
      (m.caches.of kind).entries.get? ⟨session, assistant⟩ = none := by
    intro kind assistant
    rw [← lookup?_of_mem hs (mem_of_accepted? h)]
    exact hvacant kind assistant
  rcases caches_dispatch_cases s.settings.production s.now m.application m.caches
      (RequestType.ofPayload payload) payload with
    hcaches | ⟨_, _, hother, -⟩ | ⟨ended, -, -, hended, hcaches⟩
  · exact hcaches
  · rw [htype] at hother
    cases hother
  · obtain rfl : session = ended := by
      rw [hsession] at hended
      exact Option.some.inj hended
    have htools := FunctionCache.removeSession_of_vacant (hnone .toolCall)
    have hfunctions := FunctionCache.removeSession_of_vacant (hnone .function)
    calc (s.dispatched m payload).caches
        = ⟨(m.caches.tools.removeSession session).2,
          (m.caches.functions.removeSession session).2⟩ := hcaches
      _ = ⟨m.caches.of .toolCall, m.caches.of .function⟩ :=
        congrArg₂ Caches.mk htools hfunctions
      _ = m.caches := rfl

/-- However often the end of a call is reported again, the caches stay as they are, and the answer
is the same each time. -/
theorem reports_of_vacant (hs : (s.mounts.map Mount.path).Nodup) (clock : Nat → String)
    (hvacant : s.Vacant path session) {reports : List Request}
    (hreports : ∀ r ∈ reports, s.Posts r path .endOfCallReport session) :
    (s.after clock (reports.map .request)).mounts = s.mounts ∧
      ∀ a ∈ s.answers clock (reports.map .request), a.2 = .ok endOfCallAcknowledgement := by
  induction reports generalizing s with
  | nil => exact ⟨rfl, by simp [answers]⟩
  | cons r rest ih =>
      obtain ⟨m, payload, haccepted, rfl, htype, hsession⟩ := hreports r List.mem_cons_self
      have hmounts := mounts_serve_report_of_vacant hs hvacant haccepted htype hsession clock
      have hvacant₁ : (s.serve clock r).2.Vacant m.path session := by
        intro kind assistant
        rw [lookup?_of_mounts hmounts]
        exact hvacant kind assistant
      have hreports₁ : ∀ r' ∈ rest,
          (s.serve clock r).2.Posts r' m.path .endOfCallReport session := by
        intro r' hr'
        exact (posts_congr (settings_perform clock s (.request r))
          (applications_perform clock s (.request r))
          r' m.path .endOfCallReport session).2 (hreports r' (List.mem_cons_of_mem _ hr'))
      obtain ⟨hrest, hanswers⟩ :=
        ih (paths_nodup_perform hs clock (.request r)) hvacant₁ hreports₁
      constructor
      · exact hrest.trans hmounts
      · intro a ha
        rcases List.mem_cons.1 ha with rfl | ha
        · exact response_serve_report haccepted htype clock
        · exact hanswers a ha

/-! ## The end of a call -/

/-- **A session of an application has ended for good** between two states. -/
structure Ended (clock : Nat → String) (path session : String) (s s' : State) : Prop where
  /-- It has no entries. -/
  vacant : s'.Vacant path session
  /-- Every other entry is as before. -/
  others : ∀ path' kind key, ¬ (path' = path ∧ key.session = session) →
    s'.lookup? path' kind key = s.lookup? path' kind key
  /-- Whatever happens then, messages that ask for calls of the session find nothing, until an
  assistant is asked for in its name. -/
  final : ∀ steps,
    s'.Throughout clock (fun s step => ¬ s.StepPosts path .assistantRequest session step) steps →
    ∀ r m payload kind, (s'.after clock steps).accepted? r = some (m, payload) →
      m.path = path → (RequestType.ofPayload payload).asksOf? = some kind →
      sessionOf? (messageOf payload) = some session →
        (s'.after clock steps).FindsNothing clock r kind m
          ⟨session, assistantOf (messageOf payload)⟩
  /-- Reports that come after the first change nothing, and are answered as the first. -/
  repeated : ∀ reports : List Request,
    (∀ r ∈ reports, s'.Posts r path .endOfCallReport session) →
      (s'.after clock (reports.map .request)).mounts = s'.mounts ∧
        ∀ a ∈ s'.answers clock (reports.map .request), a.2 = .ok endOfCallAcknowledgement

/-- **What the report of the end of a call does.** -/
structure EndsCall (clock : Nat → String) (s : State) (r : Request) (m : Mount) (payload : Json) :
    Prop where
  /-- It is acknowledged, in any case. -/
  acknowledged : (s.serve clock r).1 = .ok endOfCallAcknowledgement
  /-- An application that is to forget the call does so. -/
  ended : ∀ session, m.application.config.removeCacheOnEndOfCallReport = true →
    sessionOf? (messageOf payload) = some session →
      Ended clock m.path session s (s.serve clock r).2
  /-- Otherwise, or if no call is named, the caches stay as they are. -/
  kept : (m.application.config.removeCacheOnEndOfCallReport = false ∨
    sessionOf? (messageOf payload) = none) → (s.serve clock r).2.mounts = s.mounts

/-- **The end of a call is final**, in a service whose applications have different paths, as those
of every service that starts have (`paths_nodup_of_build`). -/
theorem endOfCall_final (hs : (s.mounts.map Mount.path).Nodup) (clock : Nat → String)
    (h : s.accepted? r = some (m, payload))
    (htype : RequestType.ofPayload payload = .endOfCallReport) :
    s.EndsCall clock r m payload := by
  refine ⟨response_serve_report h htype clock, ?_,
    fun hkept => mounts_serve_report_of_kept hs h htype hkept clock⟩
  intro session hflag hsession
  have hs' : ((s.serve clock r).2.mounts.map Mount.path).Nodup :=
    paths_nodup_perform hs clock (.request r)
  have hlookup := lookup?_serve_report hs h htype hflag hsession clock
  have hvacant : (s.serve clock r).2.Vacant m.path session := by
    intro kind assistant
    rw [hlookup, if_pos ⟨rfl, rfl⟩]
  refine ⟨hvacant, ?_, ?_, fun reports => reports_of_vacant hs' clock hvacant⟩
  · intro path kind key hother
    rw [hlookup, if_neg hother]
  · rintro steps hsteps r' m' payload' kind h' hpath ht hsession'
    have hvacant' : ((s.serve clock r).2.after clock steps).Vacant m'.path session := by
      rw [hpath]
      exact vacant_after hs' clock hvacant hsteps
    exact serve_of_vacant (paths_nodup_after hs' clock steps) clock hvacant' ht h' rfl hsession'

/-- The call `a` of the weather application has begun and ends. -/
theorem endOfCall_final_weather :
    ∃ (s : State) (m : Mount) (payload : Json),
      s = weatherService.after (fun time => toString time)
        [.request (weatherPost "assistant-request" "a")] ∧
      (s.mounts.map Mount.path).Nodup ∧
      s.accepted? (weatherPost "end-of-call-report" "a") = some (m, payload) ∧
      RequestType.ofPayload payload = .endOfCallReport ∧
      s.EndsCall (fun time => toString time) (weatherPost "end-of-call-report" "a") m payload := by
  have hs := paths_nodup_after (paths_nodup_of_build build_weather) (fun time => toString time)
    [.request (weatherPost "assistant-request" "a")]
  have haccepted : ((weatherService.after (fun time => toString time)
      [.request (weatherPost "assistant-request" "a")]).accepted?
        (weatherPost "end-of-call-report" "a")).any
        (fun a => RequestType.ofPayload a.2 = .endOfCallReport) = true := by decide +kernel
  obtain ⟨⟨m, payload⟩, h, htype⟩ := (Option.any_eq_true _ _).1 haccepted
  have htype : RequestType.ofPayload payload = .endOfCallReport := of_decide_eq_true htype
  exact ⟨_, m, payload, rfl, hs, h, htype, endOfCall_final hs _ h htype⟩

end State

end Switchboard
