import Switchboard.Proofs.Cache.Operations
import Switchboard.Service.Application

/-!
# What one session sees of the caches

* `FunctionCache.seenBy`, `Caches.seenBy`: the entries of one session, by the assistant they are
  for.
* `seenBy_add`, `seenBy_removeSession`, `seenBy_purge`, `seenBy_clear`: what a session sees after an
  operation is a function of what it saw before. An operation for another session changes nothing of
  it.
* **`Script.run_congr`**, **`Script.seenBy_run`**: so a responder for a session ends alike on caches
  that look alike to the session, and leaves caches that do; and no other session sees anything of
  it.
-/

namespace Switchboard

/-! ## One cache -/

namespace FunctionCache

/-- What a session sees of a cache: its kind, and the entry for each assistant. -/
def seenBy (session : String) (c : FunctionCache) : CacheKind × (String → Option Entry) :=
  (c.kind, fun assistant => c.entries.get? ⟨session, assistant⟩)

variable {c c' : FunctionCache} {session : String}

/-- A session sees the same of two caches iff they are of one kind and have the same entries under
its keys. -/
theorem seenBy_eq_iff :
    c.seenBy session = c'.seenBy session ↔
      c.kind = c'.kind ∧
        ∀ assistant, c.entries.get? ⟨session, assistant⟩ =
          c'.entries.get? ⟨session, assistant⟩ := by
  unfold seenBy
  rw [Prod.mk.injEq, funext_iff]

/-- Caches of which a session sees the same answer its look-ups alike. -/
theorem get_congr (h : c.seenBy session = c'.seenBy session) (assistant : String) :
    c.get ⟨session, assistant⟩ = c'.get ⟨session, assistant⟩ := by
  obtain ⟨hkind, hentries⟩ := seenBy_eq_iff.1 h
  unfold get
  rw [hkind, hentries]

/-- Registering for a session fails alike on caches that look alike to it, and they still do
afterwards. -/
theorem add_congr (h : c.seenBy session = c'.seenBy session) (now : Nat) (assistant : String)
    (d : ToolDefinition) :
    (c.add now ⟨session, assistant⟩ d).map (seenBy session) =
      (c'.add now ⟨session, assistant⟩ d).map (seenBy session) := by
  obtain ⟨hkind, hentries⟩ := seenBy_eq_iff.1 h
  unfold add
  simp only [hkind, hentries]
  split
  · rfl
  · simp only [Except.map]
    congr 1
    refine seenBy_eq_iff.2 ⟨rfl, fun assistant' => ?_⟩
    rw [Table.get?_insert, Table.get?_insert, hentries]

/-- Another session sees nothing of a registration. -/
theorem seenBy_add {now : Nat} {key : CacheKey} {d : ToolDefinition}
    (hkey : key.session ≠ session) (h : c.add now key d = .ok c') :
    c'.seenBy session = c.seenBy session := by
  rcases add_cases c now key d with ⟨_, _, _, _, hadd⟩ | ⟨_, _, _, hadd⟩
  · rw [hadd] at h
    cases h
  · rw [hadd] at h
    cases h
    refine seenBy_eq_iff.2 ⟨rfl, fun assistant => ?_⟩
    have hne : (⟨session, assistant⟩ : CacheKey) ≠ key := by
      rintro rfl
      exact hkey rfl
    rw [Table.get?_insert, if_neg hne]

/-- The end of a session leaves nothing to be seen by it, and is not seen by another. -/
theorem seenBy_removeSession (c : FunctionCache) (ended : String) :
    (c.removeSession ended).2.seenBy session =
      if session = ended then (c.kind, fun _ => none) else c.seenBy session := by
  unfold seenBy
  simp only [kind_removeSession, get?_removeSession]
  split <;> rfl

/-- Of what a session sees, a purge leaves the entries that are not too old. -/
theorem seenBy_purge (c : FunctionCache) (now maxAge : Nat) :
    (c.purge now maxAge).2.seenBy session =
      ((c.seenBy session).1, fun assistant =>
        ((c.seenBy session).2 assistant).filter fun e => e.age now ≤ maxAge) := by
  unfold seenBy
  simp only [kind_purge, get?_purge]

/-- Of a cleared cache no session sees more than the kind. -/
theorem seenBy_clear (c : FunctionCache) : c.clear.seenBy session = (c.kind, fun _ => none) := rfl

end FunctionCache

/-! ## Both caches -/

namespace Caches

/-- What a session sees of the caches of an application. -/
def seenBy (session : String) (cs : Caches) (kind : CacheKind) :
    CacheKind × (String → Option Entry) :=
  (cs.of kind).seenBy session

variable {cs cs' : Caches} {session : String}

/-- A cache that is replaced is the new one, and the other is as before. -/
@[simp] theorem of_set (cs : Caches) (kind kind' : CacheKind) (c : FunctionCache) :
    (cs.set kind c).of kind' = if kind' = kind then c else cs.of kind' := by
  cases kind <;> cases kind' <;> rfl

/-- The end of a session is its end in both caches. -/
theorem of_removeSession (cs : Caches) (session : String) (kind : CacheKind) :
    (cs.removeSession session).2.of kind = ((cs.of kind).removeSession session).2 := by
  cases kind <;> rfl

/-- A purge is a purge of both caches. -/
theorem of_purge (cs : Caches) (now maxAge : Nat) (kind : CacheKind) :
    (cs.purge now maxAge).2.of kind = ((cs.of kind).purge now maxAge).2 := by
  cases kind <;> rfl

/-- A clearing clears both caches. -/
theorem of_clear (cs : Caches) (kind : CacheKind) : cs.clear.of kind = (cs.of kind).clear := by
  cases kind <;> rfl

/-- A session sees the cache that has been put in the place of another. -/
theorem seenBy_set (cs : Caches) (kind kind' : CacheKind) (c : FunctionCache) :
    (cs.set kind c).seenBy session kind' =
      if kind' = kind then c.seenBy session else cs.seenBy session kind' := by
  unfold seenBy
  rw [of_set]
  split <;> rfl

/-- A registration for a session does to two pairs of caches what the session sees alike in both. -/
theorem add_congr (h : cs.seenBy session = cs'.seenBy session) (kind : CacheKind) (now : Nat)
    (assistant : String) (d : ToolDefinition) :
    (cs.add kind now ⟨session, assistant⟩ d).map (seenBy session) =
      (cs'.add kind now ⟨session, assistant⟩ d).map (seenBy session) := by
  have hadd := FunctionCache.add_congr (congrFun h kind) now assistant d
  have hset : ∀ c c' : FunctionCache, c.seenBy session = c'.seenBy session →
      (cs.set kind c).seenBy session = (cs'.set kind c').seenBy session := by
    intro c c' hc
    funext kind'
    rw [seenBy_set, seenBy_set, hc, h]
  unfold add
  cases hc : (cs.of kind).add now ⟨session, assistant⟩ d <;>
    cases hc' : (cs'.of kind).add now ⟨session, assistant⟩ d <;>
    simp only [hc, hc', Except.map, Except.ok.injEq, Except.error.injEq, reduceCtorEq] at hadd ⊢
  · exact hadd
  · exact hset _ _ hadd

/-- A registration for another session is not seen. -/
theorem seenBy_add {kind : CacheKind} {now : Nat} {key : CacheKey} {d : ToolDefinition}
    (hkey : key.session ≠ session) (h : cs.add kind now key d = .ok cs') :
    cs'.seenBy session = cs.seenBy session := by
  unfold add at h
  cases hc : (cs.of kind).add now key d with
  | error e =>
      rw [hc] at h
      cases h
  | ok c =>
      rw [hc] at h
      cases h
      funext kind'
      rw [seenBy_set]
      split
      · next hkind =>
        subst hkind
        exact FunctionCache.seenBy_add hkey hc
      · rfl

/-- The end of a session leaves nothing to be seen by it in either cache, and is not seen by
another. -/
theorem seenBy_removeSession (cs : Caches) (ended : String) (kind : CacheKind) :
    (cs.removeSession ended).2.seenBy session kind =
      if session = ended then ((cs.of kind).kind, fun _ => none) else cs.seenBy session kind := by
  cases kind <;> exact FunctionCache.seenBy_removeSession _ _

/-- The caches that look alike to a session still do when some session has ended. -/
theorem removeSession_congr (h : cs.seenBy session = cs'.seenBy session) (ended : String) :
    (cs.removeSession ended).2.seenBy session = (cs'.removeSession ended).2.seenBy session := by
  funext kind
  have hkind : (cs.of kind).kind = (cs'.of kind).kind := congrArg Prod.fst (congrFun h kind)
  rw [seenBy_removeSession, seenBy_removeSession, hkind, h]

/-- What a session sees of caches decides what it sees of them after a purge. -/
theorem purge_congr (h : cs.seenBy session = cs'.seenBy session) (now maxAge : Nat) :
    (cs.purge now maxAge).2.seenBy session = (cs'.purge now maxAge).2.seenBy session := by
  funext kind
  unfold seenBy
  rw [of_purge, of_purge, FunctionCache.seenBy_purge, FunctionCache.seenBy_purge]
  rw [show (cs.of kind).seenBy session = (cs'.of kind).seenBy session from congrFun h kind]

/-- What a session sees of caches decides what it sees of them after a clearing. -/
theorem clear_congr (h : cs.seenBy session = cs'.seenBy session) :
    cs.clear.seenBy session = cs'.clear.seenBy session := by
  funext kind
  have hkind : (cs.of kind).kind = (cs'.of kind).kind := congrArg Prod.fst (congrFun h kind)
  unfold seenBy
  rw [of_clear, of_clear, FunctionCache.seenBy_clear, FunctionCache.seenBy_clear, hkind]

end Caches

/-! ## Responders -/

namespace Script

variable {session : String}

/-- **A responder for a session depends on what the session sees**, and on nothing else of the
caches. -/
theorem run_congr (script : Script) (now : Nat) {cs cs' : Caches}
    (h : cs.seenBy session = cs'.seenBy session) :
    (script.run session now cs).2 = (script.run session now cs').2 ∧
      (script.run session now cs).1.seenBy session =
        (script.run session now cs').1.seenBy session := by
  induction script generalizing cs cs' with
  | finish outcome => exact ⟨rfl, h⟩
  | register kind assistant d next ih =>
      have hadd := Caches.add_congr h kind now assistant d
      unfold run
      cases hc : cs.add kind now ⟨session, assistant⟩ d <;>
        cases hc' : cs'.add kind now ⟨session, assistant⟩ d <;>
        simp only [hc, hc', Except.map, Except.ok.injEq, Except.error.injEq, reduceCtorEq] at hadd
      · subst hadd
        exact ih _ h
      · exact ih _ hadd

/-- **A responder for one session does nothing that another session sees.** -/
theorem seenBy_run (script : Script) {other : String} (hother : other ≠ session) (now : Nat)
    (cs : Caches) : (script.run other now cs).1.seenBy session = cs.seenBy session := by
  induction script generalizing cs with
  | finish outcome => rfl
  | register kind assistant d next ih =>
      unfold run
      cases hc : cs.add kind now ⟨other, assistant⟩ d with
      | error e => exact ih _ cs
      | ok cs₁ =>
          rw [← Caches.seenBy_add hother hc]
          exact ih _ cs₁

end Script

end Switchboard
