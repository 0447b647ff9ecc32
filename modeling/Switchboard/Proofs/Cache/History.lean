import Mathlib.Data.List.Basic
import Mathlib.Data.List.Induction
import Switchboard.Proofs.Cache.Operations

/-!
# A cache is explained by its history

A *history* is a list of operations on one cache, the oldest first, with the passing of time among
them. This file says what the look-ups of a cache answer after an arbitrary history, in terms of the
history alone.

* `Lifetime k before since`: behind the history `before`, in which the key `k` ends up out of the
  cache, `since` begins with a registration under `k` and holds nothing that takes the entry of `k`
  out. Whether a purge does depends on the age of the entry, which is the time that has passed since
  its lifetime began.
* `Registered`: the registrations of a lifetime that were accepted.
* **`run_explained`**: a key is present iff the history ends in a lifetime of it, its entry was
  created when the lifetime began, and its functions are those registered in the lifetime.

Registrations are done in place here (`register`): the entry is made before the name is looked at,
and a refusal takes nothing back. That this comes to the same as `add` is `register_eq`.
-/

namespace Switchboard

namespace FunctionCache

/-! ## Registering in place -/

/-- The cache with an entry for a key, made at the time `now` if there is none, and that entry. -/
def entryOrNew (c : FunctionCache) (now : Nat) (key : CacheKey) : Entry × FunctionCache :=
  match c.entries.get? key with
  | some entry => (entry, c)
  | none => (.new key now, { c with entries := c.entries.insert key (.new key now) })

/-- Registers a function in the cache itself: makes sure of the entry, then looks at the names in
it. -/
def register (c : FunctionCache) (now : Nat) (key : CacheKey) (d : ToolDefinition) :
    Except CacheError Unit × FunctionCache :=
  let (entry, c) := c.entryOrNew now key
  if entry.functions.contains d.name then (.error (.alreadyDeclared c.kind key d.name), c)
  else (.ok (), { c with entries := c.entries.insert key (entry.insert d) })

/-- Registering in place gives the cache that `add` gives, and leaves the cache as it is where `add`
fails: a new entry has no functions, so a refusal never leaves one behind. -/
theorem register_eq (c : FunctionCache) (now : Nat) (key : CacheKey) (d : ToolDefinition) :
    c.register now key d =
      match c.add now key d with
      | .ok c' => (.ok (), c')
      | .error e => (.error e, c) := by
  unfold register entryOrNew add
  cases hk : c.entries.get? key with
  | some e =>
      simp only [Option.getD_some]
      split <;> rfl
  | none =>
      have hnew : (Entry.new key now).functions.contains d.name = false := rfl
      have hinsert : (c.entries.insert key (.new key now)).insert key
            ((Entry.new key now).insert d) =
          c.entries.insert key ((Entry.new key now).insert d) := by
        apply Table.ext_get?
        intro k
        rw [Table.get?_insert, Table.get?_insert, Table.get?_insert]
        split <;> rfl
      simp only [Option.getD_none, hnew, Bool.false_eq_true, if_false, hinsert]

/-! ## Histories -/

/-- An operation on a cache, or the passing of time. -/
inductive Op where
  /-- Registers a function. -/
  | add (key : CacheKey) (d : ToolDefinition)
  /-- Looks an entry up. -/
  | get (key : CacheKey)
  /-- Looks a function up. -/
  | function (key : CacheKey) (name : String)
  /-- Takes an entry out. -/
  | remove (key : CacheKey)
  /-- Takes the entries of a session out. -/
  | removeSession (session : String)
  /-- Takes the entries older than `maxAge` out. -/
  | purge (maxAge : Nat)
  /-- Takes every entry out. -/
  | clear
  /-- Time passes. -/
  | advance (duration : Nat)

/-- A cache and the time of its clock. -/
structure Clocked where
  /-- The cache. -/
  cache : FunctionCache
  /-- The time. -/
  now : Nat

/-- A registration under `k` is accepted. -/
def Clocked.Accepts (s : Clocked) (k : CacheKey) (d : ToolDefinition) : Prop :=
  (s.cache.register s.now k d).1 = .ok ()

/-- What an operation leaves behind. -/
def Op.perform (s : Clocked) : Op → Clocked
  | add key d => { s with cache := (s.cache.register s.now key d).2 }
  | get _ => s
  | function _ _ => s
  | remove key => { s with cache := (s.cache.remove key).2 }
  | removeSession session => { s with cache := (s.cache.removeSession session).2 }
  | purge maxAge => { s with cache := (s.cache.purge s.now maxAge).2 }
  | clear => { s with cache := s.cache.clear }
  | advance duration => { s with now := s.now + duration }

/-- What a history leaves behind. -/
def run (s : Clocked) (h : List Op) : Clocked := h.foldl Op.perform s

/-- A new cache at a time. -/
def fresh (kind : CacheKind) (start : Nat) : Clocked := ⟨.new kind, start⟩

/-- The time that an operation takes. -/
def Op.duration : Op → Nat
  | advance duration => duration
  | _ => 0

/-- The time that passes in a history. -/
def elapsed (h : List Op) : Nat := h.foldr (fun op t => op.duration + t) 0

/-- The operation takes the entry of `k` out of a cache in which that entry is `age` old. -/
def Op.TakesOut (k : CacheKey) (age : Nat) : Op → Prop
  | remove key => key = k
  | removeSession session => session = k.session
  | purge maxAge => maxAge < age
  | clear => True
  | _ => False

/-- **A lifetime of the key `k`**, behind the history `before`: it begins with a registration under
`k`, nothing in it takes the entry of `k` out, and `before` does not end in a lifetime of `k`
itself. -/
def Lifetime (k : CacheKey) (before since : List Op) : Prop :=
  (∃ d rest, since = .add k d :: rest) ∧
    (∀ done op rest, since = done ++ op :: rest → ¬ op.TakesOut k (elapsed done)) ∧
    (∀ earlier ended, before = earlier ++ ended → ended ≠ [] → ¬ Lifetime k earlier ended)
termination_by before.length
decreasing_by
  have := List.length_pos_iff.2 ‹ended ≠ []›
  simp_all

/-- The definition was registered under `k` in the lifetime `since`, and not refused. -/
def Registered (s₀ : Clocked) (k : CacheKey) (before since : List Op)
    (d : ToolDefinition) : Prop :=
  ∃ done rest, since = done ++ .add k d :: rest ∧ (run s₀ (before ++ done)).Accepts k d

/-! ## Time and runs -/

/-- A history with one operation more is the operation after the history. -/
@[simp] theorem run_concat (s : Clocked) (h : List Op) (op : Op) :
    run s (h ++ [op]) = op.perform (run s h) := by
  simp [run]

/-- In no history no time passes. -/
@[simp] theorem elapsed_nil : elapsed [] = 0 := rfl

/-- The time that passes in two histories is the sum of their times. -/
theorem elapsed_append (h h' : List Op) : elapsed (h ++ h') = elapsed h + elapsed h' := by
  induction h with
  | nil => rw [List.nil_append, elapsed_nil, Nat.zero_add]
  | cons op rest ih =>
      show op.duration + elapsed (rest ++ h') = op.duration + elapsed rest + elapsed h'
      rw [ih, Nat.add_assoc]

/-- The clock shows the time that has passed. -/
theorem now_run (s : Clocked) (h : List Op) : (run s h).now = s.now + elapsed h := by
  induction h using List.reverseRecOn with
  | nil => rfl
  | append_singleton h op ih =>
      rw [run_concat, elapsed_append, ← Nat.add_assoc, ← ih]
      cases op <;> rfl

/-- What a registration in place can do. -/
theorem register_cases (c : FunctionCache) (now : Nat) (key : CacheKey) (d : ToolDefinition) :
    (∃ e d', c.entries.get? key = some e ∧ e.get? d.name = some d' ∧
      c.register now key d = (.error (.alreadyDeclared c.kind key d.name), c)) ∨
    (∃ e, e = (c.entries.get? key).getD (.new key now) ∧ e.get? d.name = none ∧
      c.register now key d =
        (.ok (), { c with entries := c.entries.insert key (e.insert d) })) := by
  rcases add_cases c now key d with ⟨e, d', hk, hd, hadd⟩ | ⟨e, he, hd, hadd⟩
  · exact .inl ⟨e, d', hk, hd, by rw [register_eq, hadd]⟩
  · exact .inr ⟨e, he, hd, by rw [register_eq, hadd]⟩

/-- A registration is refused iff the key has a function of that name. -/
theorem register_refused_iff {c : FunctionCache} {now : Nat} {key : CacheKey} {d : ToolDefinition} :
    (c.register now key d).1 = .error (.alreadyDeclared c.kind key d.name) ↔
      ∃ d', c.function key d.name = .ok d' := by
  simp only [function_eq_ok_iff]
  rcases register_cases c now key d with ⟨e, d', hk, hd, hreg⟩ | ⟨e, he, hd, hreg⟩
  · rw [hreg]
    exact iff_of_true rfl ⟨d', e, hk, hd⟩
  · rw [hreg]
    refine iff_of_false nofun ?_
    rintro ⟨d', e', hk, hd'⟩
    rw [hk, Option.getD_some] at he
    rw [he, hd'] at hd
    cases hd

/-- A registration fails in no other way and then changes nothing. -/
theorem register_failed {c : FunctionCache} {now : Nat} {key : CacheKey} {d : ToolDefinition}
    {err : CacheError} (h : (c.register now key d).1 = .error err) :
    err = .alreadyDeclared c.kind key d.name ∧ (c.register now key d).2 = c := by
  rcases register_cases c now key d with ⟨_, _, _, _, hreg⟩ | ⟨_, _, _, hreg⟩
  · rw [hreg] at h ⊢
    cases h
    exact ⟨rfl, rfl⟩
  · rw [hreg] at h
    cases h

/-- A registration, made or refused, leaves the kind of the cache. -/
@[simp] theorem kind_register (c : FunctionCache) (now : Nat) (key : CacheKey)
    (d : ToolDefinition) :
    (c.register now key d).2.kind = c.kind := by
  rcases register_cases c now key d with ⟨_, _, _, _, h⟩ | ⟨_, _, _, h⟩ <;> rw [h]

/-- A registration, made or refused, leaves the time of the last purge. -/
@[simp] theorem lastPurge_register (c : FunctionCache) (now : Nat) (key : CacheKey)
    (d : ToolDefinition) : (c.register now key d).2.lastPurge = c.lastPurge := by
  rcases register_cases c now key d with ⟨_, _, _, _, h⟩ | ⟨_, _, _, h⟩ <;> rw [h]

/-- The kind of a cache is never changed. -/
@[simp] theorem kind_run (s : Clocked) (h : List Op) : (run s h).cache.kind = s.cache.kind := by
  induction h using List.reverseRecOn with
  | nil => rfl
  | append_singleton h op ih =>
      rw [run_concat, ← ih]
      cases op <;> simp [Op.perform]

/-- A cache has been purged iff there is a purge in its history. -/
theorem lastPurge_run_isSome_iff (kind : CacheKind) (start : Nat) (h : List Op) :
    (run (fresh kind start) h).cache.lastPurge.isSome = true ↔
      ∃ maxAge, .purge maxAge ∈ h := by
  induction h using List.reverseRecOn with
  | nil => simp [run, fresh, FunctionCache.new]
  | append_singleton h op ih =>
      rw [run_concat]
      cases op <;> simp [Op.perform, ih]

/-! ## What one operation does to one key -/

section step

variable {s : Clocked} {k : CacheKey} {e : Entry} {op : Op}

/-- A registration leaves the entries of other keys alone. -/
theorem get?_register_of_ne {key : CacheKey} (hkey : k ≠ key) (d : ToolDefinition) :
    (s.cache.register s.now key d).2.entries.get? k = s.cache.entries.get? k := by
  rcases register_cases s.cache s.now key d with ⟨_, _, _, _, hreg⟩ | ⟨_, _, _, hreg⟩
  · rw [hreg]
  · rw [hreg, Table.get?_insert, if_neg hkey]

/-- A registration under a key that is present keeps the entry, and adds the function if it is
accepted. -/
theorem get?_register_of_present (hk : s.cache.entries.get? k = some e) (d : ToolDefinition) :
    ∃ e', (s.cache.register s.now k d).2.entries.get? k = some e' ∧ e'.created = e.created ∧
      ∀ name d', e'.get? name = some d' ↔
        e.get? name = some d' ∨ (d = d' ∧ d'.name = name ∧ s.Accepts k d') := by
  rcases register_cases s.cache s.now k d with ⟨_, _, _, _, hreg⟩ | ⟨e', he', hfree, hreg⟩
  · -- refused: nothing changes, and nothing was accepted
    refine ⟨e, by rw [hreg, hk], rfl, fun name d' => ?_⟩
    constructor
    · exact .inl
    · rintro (hd' | ⟨rfl, -, hacc⟩)
      · exact hd'
      · simp [Clocked.Accepts, hreg] at hacc
  · obtain rfl : e' = e := by rw [he', hk, Option.getD_some]
    have hacc : s.Accepts k d := by rw [Clocked.Accepts, hreg]
    refine ⟨e'.insert d, by rw [hreg, Table.get?_insert, if_pos rfl], rfl, fun name d' => ?_⟩
    rw [Entry.get?_insert]
    by_cases hname : name = d.name
    · subst hname
      rw [if_pos rfl, Option.some.injEq, hfree]
      constructor
      · rintro rfl
        exact .inr ⟨rfl, rfl, hacc⟩
      · rintro (hd' | ⟨hd', -, -⟩)
        · cases hd'
        · exact hd'
    · rw [if_neg hname]
      constructor
      · exact .inl
      · rintro (hd' | ⟨rfl, hname', -⟩)
        · exact hd'
        · exact absurd hname'.symm hname

/-- What takes an entry of this age out leaves the key without one. -/
theorem get?_perform_of_takesOut (hk : s.cache.entries.get? k = some e)
    (hop : op.TakesOut k (e.age s.now)) : (op.perform s).cache.entries.get? k = none := by
  cases op with
  | remove key =>
      have hkey : key = k := hop
      simp [Op.perform, get?_remove, hkey]
  | removeSession session =>
      have hsession : session = k.session := hop
      simp [Op.perform, get?_removeSession, hsession]
  | purge maxAge =>
      have hage : maxAge < e.age s.now := hop
      simp [Op.perform, get?_purge, hk, hage]
  | clear => rfl
  | add _ _ => cases hop
  | get _ => cases hop
  | function _ _ => cases hop
  | advance _ => cases hop

/-- Any other operation keeps the entry, its age and its functions; only an accepted registration
under the key adds a function. -/
theorem get?_perform_of_kept (hk : s.cache.entries.get? k = some e)
    (hop : ¬ op.TakesOut k (e.age s.now)) :
    ∃ e', (op.perform s).cache.entries.get? k = some e' ∧ e'.created = e.created ∧
      ∀ name d, e'.get? name = some d ↔
        e.get? name = some d ∨ (op = .add k d ∧ d.name = name ∧ s.Accepts k d) := by
  cases op with
  | add key d =>
      by_cases hkey : k = key
      · subst hkey
        obtain ⟨e', he', hcreated, hfunctions⟩ := get?_register_of_present hk d
        refine ⟨e', he', hcreated, fun name d' => ?_⟩
        rw [hfunctions, Op.add.injEq]
        simp only [true_and]
      · have hother : ∀ d', Op.add key d ≠ .add k d' := fun d' h => hkey (by cases h; rfl)
        exact ⟨e, by rw [← hk]; exact get?_register_of_ne hkey d, rfl, by simp [hother]⟩
  | remove key =>
      have hkey : ¬ k = key := fun h => hop h.symm
      exact ⟨e, by simp [Op.perform, get?_remove, hkey, hk], rfl, by simp⟩
  | removeSession session =>
      have hsession : ¬ k.session = session := fun h => hop h.symm
      exact ⟨e, by simp [Op.perform, get?_removeSession, hsession, hk], rfl, by simp⟩
  | purge maxAge =>
      have hage : e.age s.now ≤ maxAge := Nat.le_of_not_lt hop
      exact ⟨e, by simp [Op.perform, get?_purge, hk, hage], rfl, by simp⟩
  | clear => exact absurd trivial hop
  | get _ => exact ⟨e, hk, rfl, by simp⟩
  | function _ _ => exact ⟨e, hk, rfl, by simp⟩
  | advance _ => exact ⟨e, hk, rfl, by simp⟩

/-- Nothing but a registration under an absent key makes an entry for it. -/
theorem get?_perform_of_absent (hk : s.cache.entries.get? k = none) (hop : ∀ d, op ≠ .add k d) :
    (op.perform s).cache.entries.get? k = none := by
  cases op with
  | add key d =>
      have hkey : k ≠ key := fun h => hop d (by rw [h])
      rw [← hk]
      exact get?_register_of_ne hkey d
  | remove key => simp [Op.perform, get?_remove, hk]
  | removeSession session => simp [Op.perform, get?_removeSession, hk]
  | purge maxAge => simp [Op.perform, get?_purge, hk]
  | clear => rfl
  | get _ => exact hk
  | function _ _ => exact hk
  | advance _ => exact hk

/-- A registration under an absent key is accepted, and makes an entry of this moment with this one
function. -/
theorem get?_perform_add_of_absent (hk : s.cache.entries.get? k = none) (d : ToolDefinition) :
    s.Accepts k d ∧
      ∃ e, ((Op.add k d).perform s).cache.entries.get? k = some e ∧ e.created = s.now ∧
        ∀ name d', e.get? name = some d' ↔ d' = d ∧ d'.name = name := by
  rcases register_cases s.cache s.now k d with ⟨_, _, hk', _, _⟩ | ⟨e, he, -, hreg⟩
  · rw [hk] at hk'
    cases hk'
  · have hnew : e = .new k s.now := by rw [he, hk, Option.getD_none]
    refine ⟨by simp [Clocked.Accepts, hreg], e.insert d,
      by simp [Op.perform, hreg, Table.get?_insert], by rw [hnew]; rfl, fun name d' => ?_⟩
    rw [Entry.get?_insert, hnew, Entry.get?_new]
    by_cases hname : name = d.name
    · subst hname
      simp only [if_true, Option.some.injEq]
      exact ⟨fun h => ⟨h.symm, by rw [h]⟩, fun h => h.1.symm⟩
    · rw [if_neg hname]
      refine ⟨fun h => (Option.some_ne_none _ h.symm).elim, ?_⟩
      rintro ⟨rfl, rfl⟩
      exact absurd rfl hname

end step

/-! ## Lifetimes -/

/-- The history ends in a lifetime of the key. -/
def Alive (k : CacheKey) (h : List Op) : Prop :=
  ∃ before since, h = before ++ since ∧ Lifetime k before since

/-- Where a list with one more element at its end can be cut in front of an element. -/
theorem concat_eq_append_cons_iff {α : Type} {l done rest : List α} {a b : α} :
    l ++ [a] = done ++ b :: rest ↔
      (rest = [] ∧ l = done ∧ a = b) ∨
        ∃ rest', rest = rest' ++ [a] ∧ l = done ++ b :: rest' := by
  rcases List.eq_nil_or_concat' rest with rfl | ⟨rest', c, rfl⟩
  · simp
  · have hcons : done ++ b :: (rest' ++ [c]) = (done ++ b :: rest') ++ [c] := by simp
    rw [hcons, List.append_singleton_inj]
    constructor
    · rintro ⟨hl, rfl⟩
      exact .inr ⟨rest', rfl, hl⟩
    · rintro (⟨hnil, -⟩ | ⟨rest'', heq, hl⟩)
      · simp at hnil
      · obtain ⟨rfl, rfl⟩ := List.append_singleton_inj.1 heq
        exact ⟨hl, rfl⟩

section lifetime

variable {k : CacheKey} {before since : List Op}

/-- A lifetime begins with a registration under the key, no operation in it takes the entry out, and
no lifetime that has begun before it goes on. -/
theorem lifetime_iff :
    Lifetime k before since ↔
      (∃ d rest, since = .add k d :: rest) ∧
        (∀ done op rest, since = done ++ op :: rest → ¬ op.TakesOut k (elapsed done)) ∧
        (∀ earlier ended, before = earlier ++ ended → ended ≠ [] →
          ¬ Lifetime k earlier ended) := by
  rw [Lifetime]

/-- A lifetime has at least the registration that it begins with. -/
theorem Lifetime.ne_nil (h : Lifetime k before since) : since ≠ [] := by
  obtain ⟨⟨d, rest, rfl⟩, -⟩ := lifetime_iff.1 h
  exact List.cons_ne_nil _ _

/-- A lifetime begins where the key is out. -/
theorem Lifetime.not_alive (h : Lifetime k before since) : ¬ Alive k before := by
  rintro ⟨earlier, ended, heq, hended⟩
  exact (lifetime_iff.1 h).2.2 earlier ended heq hended.ne_nil hended

/-- One registration under a key that is out is a lifetime. -/
theorem lifetime_singleton (h : ¬ Alive k before) (d : ToolDefinition) :
    Lifetime k before [.add k d] := by
  refine lifetime_iff.2 ⟨⟨d, [], rfl⟩, fun done op rest heq => ?_,
    fun earlier ended heq _ hl => ?_⟩
  · obtain ⟨rfl, rfl, -⟩ : done = [] ∧ .add k d = op ∧ rest = [] := by
      cases done <;> simp_all
    exact id
  · exact h ⟨earlier, ended, heq, hl⟩

/-- A lifetime goes on with every operation that does not take the entry out. -/
theorem lifetime_concat_iff {op : Op} (hs : since ≠ []) :
    Lifetime k before (since ++ [op]) ↔
      Lifetime k before since ∧ ¬ op.TakesOut k (elapsed since) := by
  rw [lifetime_iff, lifetime_iff]
  constructor
  · rintro ⟨⟨d, rest, hbegins⟩, hkept, habsent⟩
    refine ⟨⟨?_, fun done op' rest' heq => ?_, habsent⟩, hkept since op [] rfl⟩
    · obtain ⟨first, others, rfl⟩ := List.exists_cons_of_ne_nil hs
      rw [List.cons_append, List.cons.injEq] at hbegins
      exact ⟨d, others, by rw [hbegins.1]⟩
    · exact hkept done op' (rest' ++ [op]) (by simp [heq])
  · rintro ⟨⟨⟨d, rest, rfl⟩, hkept, habsent⟩, hop⟩
    refine ⟨⟨d, rest ++ [op], rfl⟩, fun done op' rest' heq => ?_, habsent⟩
    rcases concat_eq_append_cons_iff.1 heq with ⟨-, rfl, rfl⟩ | ⟨rest'', -, hinner⟩
    · exact hop
    · exact hkept done op' rest'' hinner

/-- What a lifetime has been up to some moment is a lifetime. -/
theorem Lifetime.of_append {done rest : List Op} (h : Lifetime k before (done ++ rest))
    (hd : done ≠ []) : Lifetime k before done := by
  induction rest using List.reverseRecOn with
  | nil => simpa using h
  | append_singleton rest op ih =>
      rw [← List.append_assoc] at h
      exact ih ((lifetime_concat_iff (by simp [hd])).1 h).1

/-- A lifetime at whose end an operation stands either began with it or was a lifetime before it. -/
theorem lifetime_of_concat {h : List Op} {op : Op} (heq : h ++ [op] = before ++ since)
    (hl : Lifetime k before since) :
    (before = h ∧ ∃ d, op = .add k d ∧ since = [.add k d]) ∨
      ∃ since', since = since' ++ [op] ∧ h = before ++ since' ∧ Lifetime k before since' ∧
        ¬ op.TakesOut k (elapsed since') := by
  rcases List.eq_nil_or_concat' since with rfl | ⟨since', last, rfl⟩
  · exact absurd rfl hl.ne_nil
  · rw [← List.append_assoc, List.append_singleton_inj] at heq
    obtain ⟨rfl, rfl⟩ := heq
    by_cases hs : since' = []
    · left
      subst hs
      obtain ⟨⟨d, rest, hbegins⟩, -⟩ := lifetime_iff.1 hl
      obtain ⟨rfl, rfl⟩ : op = .add k d ∧ rest = [] := by simpa [eq_comm] using hbegins
      exact ⟨by simp, d, rfl, rfl⟩
    · right
      exact ⟨since', rfl, rfl, (lifetime_concat_iff hs).1 hl⟩

/-- A history ends in at most one lifetime of a key. -/
theorem Lifetime.unique {before' since' : List Op} (h : Lifetime k before since)
    (h' : Lifetime k before' since') (heq : before ++ since = before' ++ since') :
    before = before' ∧ since = since' := by
  rcases List.append_eq_append_iff.1 heq with ⟨mid, rfl, rfl⟩ | ⟨mid, rfl, rfl⟩
  · by_cases hm : mid = []
    · simp [hm]
    · exact absurd ⟨before, mid, rfl, h.of_append hm⟩ h'.not_alive
  · by_cases hm : mid = []
    · simp [hm]
    · exact absurd ⟨before', mid, rfl, h'.of_append hm⟩ h.not_alive

/-- After one operation more a function has been registered in the lifetime if it had been before,
or if this operation is an accepted registration of it. -/
theorem registered_concat_iff {s₀ : Clocked} {op : Op} {d : ToolDefinition} :
    Registered s₀ k before (since ++ [op]) d ↔
      Registered s₀ k before since d ∨
        (op = .add k d ∧ (run s₀ (before ++ since)).Accepts k d) := by
  constructor
  · rintro ⟨done, rest, heq, hacc⟩
    rcases concat_eq_append_cons_iff.1 heq with ⟨-, rfl, rfl⟩ | ⟨rest', -, hinner⟩
    · exact .inr ⟨rfl, hacc⟩
    · exact .inl ⟨done, rest', hinner, hacc⟩
  · rintro (⟨done, rest, rfl, hacc⟩ | ⟨rfl, hacc⟩)
    · exact ⟨done, rest ++ [op], by simp, hacc⟩
    · exact ⟨since, [], rfl, hacc⟩

/-- What has been registered in a lifetime stays registered. -/
theorem Registered.append {s₀ : Clocked} {d : ToolDefinition}
    (h : Registered s₀ k before since d) (more : List Op) :
    Registered s₀ k before (since ++ more) d := by
  obtain ⟨done, rest, rfl, hacc⟩ := h
  exact ⟨done, rest ++ more, by simp, hacc⟩

end lifetime

/-! ## The entry that a lifetime accounts for -/

/-- The entry was created when the lifetime began, and its functions are those registered in it. -/
def AccountsFor (s₀ : Clocked) (k : CacheKey) (before since : List Op) (e : Entry) : Prop :=
  e.created = s₀.now + elapsed before ∧
    ∀ name d, e.get? name = some d ↔ d.name = name ∧ Registered s₀ k before since d

section entries

variable {s₀ : Clocked} {k : CacheKey}

/-- The first registration of a lifetime makes the entry that this lifetime accounts for. -/
theorem accountsFor_singleton {h : List Op} (hk : (run s₀ h).cache.entries.get? k = none)
    (d : ToolDefinition) :
    ∃ e, (run s₀ (h ++ [.add k d])).cache.entries.get? k = some e ∧
      AccountsFor s₀ k h [.add k d] e := by
  obtain ⟨hacc, e, he, hcreated, hfunctions⟩ := get?_perform_add_of_absent hk d
  rw [run_concat]
  refine ⟨e, he, by rw [hcreated, now_run], fun name d' => ?_⟩
  rw [hfunctions]
  constructor
  · rintro ⟨rfl, hname⟩
    exact ⟨hname, [], [], rfl, by simpa using hacc⟩
  · rintro ⟨hname, done, rest, heq, -⟩
    obtain ⟨rfl, -⟩ : d = d' ∧ rest = [] := by
      cases done <;> simp_all
    exact ⟨rfl, hname⟩

/-- In the middle of a lifetime the entry is as old as the lifetime. -/
theorem AccountsFor.age_eq {before since : List Op} {e : Entry}
    (h : AccountsFor s₀ k before since e) :
    e.age (run s₀ (before ++ since)).now = elapsed since := by
  rw [Entry.age, h.1, now_run, elapsed_append]
  omega

/-- An operation with which the lifetime goes on leaves an entry that the longer lifetime accounts
for. -/
theorem AccountsFor.concat {before since : List Op} {e : Entry} {op : Op}
    (h : AccountsFor s₀ k before since e)
    (hk : (run s₀ (before ++ since)).cache.entries.get? k = some e)
    (hop : ¬ op.TakesOut k (elapsed since)) :
    ∃ e', (run s₀ (before ++ since ++ [op])).cache.entries.get? k = some e' ∧
      AccountsFor s₀ k before (since ++ [op]) e' := by
  rw [← h.age_eq] at hop
  obtain ⟨e', he', hcreated, hfunctions⟩ := get?_perform_of_kept hk hop
  rw [run_concat]
  refine ⟨e', he', hcreated.trans h.1, fun name d => ?_⟩
  rw [hfunctions, h.2, registered_concat_iff]
  tauto

/-- **The invariant of histories.** Induction on the history from its end: the entry of a key is
there exactly in its lifetimes, and each lifetime accounts for it. -/
theorem get?_run (hk : s₀.cache.entries.get? k = none) (h : List Op) :
    (∀ before since, h = before ++ since → Lifetime k before since →
      ∃ e, (run s₀ h).cache.entries.get? k = some e ∧ AccountsFor s₀ k before since e) ∧
    (¬ Alive k h → (run s₀ h).cache.entries.get? k = none) := by
  induction h using List.reverseRecOn with
  | nil =>
      refine ⟨fun before since heq hl => ?_, fun _ => hk⟩
      exact absurd (List.append_eq_nil_iff.1 heq.symm).2 hl.ne_nil
  | append_singleton h op ih =>
      obtain ⟨ihAlive, ihOut⟩ := ih
      constructor
      · intro before since heq hl
        rcases lifetime_of_concat heq hl with
          ⟨rfl, d, rfl, rfl⟩ | ⟨since', rfl, rfl, hl', hop⟩
        · exact accountsFor_singleton (ihOut hl.not_alive) d
        · obtain ⟨e, he, hacc⟩ := ihAlive before since' rfl hl'
          exact hacc.concat he hop
      · intro hout
        by_cases halive : Alive k h
        · -- the lifetime that `h` ends in does not go on, so `op` takes the entry out
          obtain ⟨before, since, rfl, hl⟩ := halive
          obtain ⟨e, he, hacc⟩ := ihAlive before since rfl hl
          have hop : op.TakesOut k (elapsed since) := by
            by_contra hop
            exact hout ⟨before, since ++ [op], by simp,
              (lifetime_concat_iff hl.ne_nil).2 ⟨hl, hop⟩⟩
          rw [← hacc.age_eq] at hop
          rw [run_concat]
          exact get?_perform_of_takesOut he hop
        · -- the key stays out, since a registration would begin a lifetime
          have hop : ∀ d, op ≠ .add k d := by
            rintro d rfl
            exact hout ⟨h, [.add k d], rfl, lifetime_singleton halive d⟩
          rw [run_concat]
          exact get?_perform_of_absent (ihOut halive) hop

end entries

/-! ## The look-ups of a cache -/

/-- **What the history `h` of a cache says about the key `k`.** The history began with the cache
`s₀`. -/
structure Explained (s₀ : Clocked) (h : List Op) (k : CacheKey) : Prop where
  /-- The key is present iff it was registered after it was last taken out. -/
  contains_iff : (run s₀ h).cache.contains k = true ↔ Alive k h
  /-- The entry is found where the key is present, and the error tells of its absence otherwise. -/
  get_absent : ¬ Alive k h → (run s₀ h).cache.get k = .error (.notFound s₀.cache.kind k)
  /-- The entry was created by the first registration since then, whatever was registered later. -/
  get_present : ∀ before since, h = before ++ since → Lifetime k before since →
    ∃ e, (run s₀ h).cache.get k = .ok e ∧ e.created = s₀.now + elapsed before
  /-- A function is found iff it was registered since then, under its own name. -/
  function_found : ∀ name d, (run s₀ h).cache.function k name = .ok d ↔
    ∃ before since, h = before ++ since ∧ Lifetime k before since ∧
      d.name = name ∧ Registered s₀ k before since d
  /-- A registration since then was accepted iff it was the first of its name. -/
  accepts_iff : ∀ before since, h = before ++ since → Lifetime k before since →
    ∀ done rest d, since = done ++ .add k d :: rest →
      ((run s₀ (before ++ done)).Accepts k d ↔
        ∀ d', .add k d' ∈ done → d'.name ≠ d.name)
  /-- No two registrations since then with one name have been accepted. -/
  registered_once : ∀ before since, h = before ++ since → Lifetime k before since →
    ∀ done rest d, since = done ++ .add k d :: rest →
      (run s₀ (before ++ done)).Accepts k d →
    ∀ done' rest' d', since = done' ++ .add k d' :: rest' →
      (run s₀ (before ++ done')).Accepts k d' →
    d.name = d'.name → done = done' ∧ d = d'
  /-- A function that is not found is missing from the entry, or the entry is missing. -/
  function_missing : ∀ name, (∀ d, (run s₀ h).cache.function k name ≠ .ok d) →
    (¬ Alive k h → (run s₀ h).cache.function k name = .error (.notFound s₀.cache.kind k)) ∧
      (Alive k h →
        (run s₀ h).cache.function k name = .error (.functionNotFound s₀.cache.kind k name))
  /-- A registration is refused iff one with its name has been accepted since then. -/
  add_refused : ∀ d, ((run s₀ h).cache.register (run s₀ h).now k d).1 =
      .error (.alreadyDeclared s₀.cache.kind k d.name) ↔
    ∃ before since d', h = before ++ since ∧ Lifetime k before since ∧
      d'.name = d.name ∧ Registered s₀ k before since d'
  /-- A registration fails in no other way, and a refused one changes nothing. -/
  add_failed : ∀ d err, ((run s₀ h).cache.register (run s₀ h).now k d).1 = .error err →
    err = .alreadyDeclared s₀.cache.kind k d.name ∧
      ((run s₀ h).cache.register (run s₀ h).now k d).2 = (run s₀ h).cache
  /-- The time of the last purge is set iff there was one. -/
  lastPurge_iff : (run s₀ h).cache.lastPurge.isSome = true ↔ ∃ maxAge, .purge maxAge ∈ h
  /-- Taking every entry out does not forget the last purge. -/
  lastPurge_clear : (run s₀ (h ++ [.clear])).cache.lastPurge = (run s₀ h).cache.lastPurge

section lookups

variable {s₀ : Clocked} {k : CacheKey}

/-- A key that had no entry at the start has one iff it is alive. -/
theorem contains_run_iff (hk : s₀.cache.entries.get? k = none) (h : List Op) :
    (run s₀ h).cache.contains k = true ↔ Alive k h := by
  obtain ⟨hAlive, hOut⟩ := get?_run hk h
  rw [FunctionCache.contains_iff]
  constructor
  · rintro ⟨e, he⟩
    by_contra hout
    rw [hOut hout] at he
    cases he
  · rintro ⟨before, since, heq, hl⟩
    obtain ⟨e, he, -⟩ := hAlive before since heq hl
    exact ⟨e, he⟩

/-- A function is found iff it has been registered under its name in the current lifetime. -/
theorem function_run_iff (hk : s₀.cache.entries.get? k = none) (h : List Op) (name : String)
    (d : ToolDefinition) :
    (run s₀ h).cache.function k name = .ok d ↔
      ∃ before since, h = before ++ since ∧ Lifetime k before since ∧
        d.name = name ∧ Registered s₀ k before since d := by
  obtain ⟨hAlive, -⟩ := get?_run hk h
  rw [function_eq_ok_iff]
  constructor
  · rintro ⟨e, he, hd⟩
    obtain ⟨before, since, heq, hl⟩ :=
      (contains_run_iff hk h).1 (FunctionCache.contains_iff.2 ⟨e, he⟩)
    obtain ⟨e', he', hacc⟩ := hAlive before since heq hl
    obtain rfl : e' = e := by rwa [he, Option.some.injEq, eq_comm] at he'
    exact ⟨before, since, heq, hl, (hacc.2 name d).1 hd⟩
  · rintro ⟨before, since, heq, hl, hreg⟩
    obtain ⟨e, he, hacc⟩ := hAlive before since heq hl
    exact ⟨e, he, (hacc.2 name d).2 hreg⟩

/-- In the middle of a lifetime a function is found iff it was registered since the lifetime
began. -/
theorem function_run_iff_registered (hk : s₀.cache.entries.get? k = none) {before done : List Op}
    (rest : List Op) (hl : Lifetime k before (done ++ rest)) (name : String) (d : ToolDefinition) :
    (run s₀ (before ++ done)).cache.function k name = .ok d ↔
      d.name = name ∧ Registered s₀ k before done d := by
  rw [function_run_iff hk]
  constructor
  · rintro ⟨before', since', heq, hl', hd⟩
    by_cases hdone : done = []
    · subst hdone
      rw [List.append_nil] at heq
      exact absurd ⟨before', since', heq, hl'⟩ hl.not_alive
    · obtain ⟨rfl, rfl⟩ := (hl.of_append hdone).unique hl' heq
      exact hd
  · rintro ⟨hname, hreg⟩
    have hdone : done ≠ [] := by
      obtain ⟨first, others, rfl, -⟩ := hreg
      simp
    exact ⟨before, done, rfl, hl.of_append hdone, hname, hreg⟩

/-- A registration is not accepted iff there is a function of its name. -/
theorem not_accepts_iff {s : Clocked} {d : ToolDefinition} :
    ¬ s.Accepts k d ↔ ∃ d', s.cache.function k d.name = .ok d' := by
  have hrefused : (s.cache.register s.now k d).1 =
      .error (.alreadyDeclared s.cache.kind k d.name) ↔
      ∃ d', s.cache.function k d.name = .ok d' := register_refused_iff
  rw [← hrefused]
  unfold Clocked.Accepts
  rcases register_cases s.cache s.now k d with ⟨_, _, _, _, hreg⟩ | ⟨_, _, _, hreg⟩ <;>
    simp [hreg]

/-- **The first registration of a name in a lifetime is accepted**, and no later one is. -/
theorem accepts_iff (hk : s₀.cache.entries.get? k = none) {before done : List Op} (rest : List Op)
    (hl : Lifetime k before (done ++ rest)) (d : ToolDefinition) :
    (run s₀ (before ++ done)).Accepts k d ↔
      ∀ d', .add k d' ∈ done → d'.name ≠ d.name := by
  constructor
  · intro hacc d' hd' hname
    obtain ⟨first, others, rfl⟩ := List.append_of_mem hd'
    -- whether `d'` was accepted or refused, its name has been registered by then
    have hreg : ∃ d₁, d₁.name = d.name ∧
        Registered s₀ k before (first ++ .add k d' :: others) d₁ := by
      by_cases hacc' : (run s₀ (before ++ first)).Accepts k d'
      · exact ⟨d', hname, first, others, rfl, hacc'⟩
      · obtain ⟨d₁, hd₁⟩ := not_accepts_iff.1 hacc'
        rw [List.append_assoc] at hl
        obtain ⟨hname₁, hreg₁⟩ := (function_run_iff_registered hk _ hl _ _).1 hd₁
        exact ⟨d₁, hname₁.trans hname, hreg₁.append _⟩
    obtain ⟨d₁, hd₁⟩ := hreg
    exact not_accepts_iff.2 ⟨d₁, (function_run_iff_registered hk rest hl _ _).2 hd₁⟩ hacc
  · intro hfirst
    by_contra hacc
    obtain ⟨d', hd'⟩ := not_accepts_iff.1 hacc
    obtain ⟨hname, first, others, rfl, -⟩ := (function_run_iff_registered hk rest hl _ _).1 hd'
    exact hfirst d' (by simp) hname

/-- No two registrations of one name are accepted in a lifetime. -/
theorem registered_unique (hk : s₀.cache.entries.get? k = none) {before since : List Op}
    (hl : Lifetime k before since) {done rest done' rest' : List Op} {d d' : ToolDefinition}
    (heq : since = done ++ .add k d :: rest) (hacc : (run s₀ (before ++ done)).Accepts k d)
    (heq' : since = done' ++ .add k d' :: rest') (hacc' : (run s₀ (before ++ done')).Accepts k d')
    (hname : d.name = d'.name) : done = done' ∧ d = d' := by
  subst heq
  have hl' := hl
  rw [heq'] at hl'
  rcases List.append_eq_append_iff.1 heq' with ⟨mid, rfl, hmid⟩ | ⟨mid, rfl, hmid⟩
  · cases mid with
    | nil => simp_all
    | cons first others =>
        obtain ⟨rfl, -⟩ := List.cons.inj hmid
        exact absurd hname ((accepts_iff hk _ hl' d').1 hacc' d (by simp))
  · cases mid with
    | nil => simp_all
    | cons first others =>
        obtain ⟨rfl, -⟩ := List.cons.inj hmid
        exact absurd hname.symm ((accepts_iff hk _ hl d).1 hacc d' (by simp))

end lookups

/-- **A cache is explained by its history**: whatever was done to a new cache, and whatever time
passed, the look-ups of every key answer what the history says. -/
theorem run_explained (kind : CacheKind) (start : Nat) (h : List Op) (k : CacheKey) :
    Explained (fresh kind start) h k := by
  have hk : (fresh kind start).cache.entries.get? k = none := rfl
  have hkind : (run (fresh kind start) h).cache.kind = (fresh kind start).cache.kind := kind_run _ _
  obtain ⟨hAlive, hOut⟩ := get?_run hk h
  have hfound := function_run_iff hk h
  constructor
  case contains_iff => exact contains_run_iff hk h
  case get_absent =>
    intro hout
    rw [← hkind]
    exact get_eq_error_iff.2 ⟨hOut hout, rfl⟩
  case get_present =>
    intro before since heq hl
    obtain ⟨e, he, hacc⟩ := hAlive before since heq hl
    exact ⟨e, get_eq_ok_iff.2 he, hacc.1⟩
  case function_found => exact hfound
  case accepts_iff =>
    rintro before since - hl done rest d rfl
    exact accepts_iff hk _ hl d
  case registered_once =>
    intro before since heq hl done rest d hd hacc done' rest' d' hd' hacc' hname
    exact registered_unique hk hl hd hacc hd' hacc' hname
  case function_missing =>
    intro name hmissing
    rw [← hkind, function_eq_error hmissing]
    refine ⟨fun hout => ?_, fun halive => ?_⟩
    · rw [contains_eq_false_iff.2 (hOut hout)]
      rfl
    · rw [(contains_run_iff hk h).2 halive]
      rfl
  case add_refused =>
    intro d
    rw [← hkind, register_refused_iff]
    simp only [hfound]
    constructor
    · rintro ⟨d', before, since, hd'⟩
      exact ⟨before, since, d', hd'⟩
    · rintro ⟨before, since, d', hd'⟩
      exact ⟨d', before, since, hd'⟩
  case add_failed =>
    intro d err herr
    rw [← hkind]
    exact register_failed herr
  case lastPurge_iff => exact lastPurge_run_isSome_iff kind start h
  case lastPurge_clear => rw [run_concat]; rfl

end FunctionCache

end Switchboard
