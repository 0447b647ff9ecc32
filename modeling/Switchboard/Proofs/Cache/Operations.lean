import Switchboard.Cache.FunctionCache

/-!
# What the operations on a cache do to its look-ups

A cache is seen through `entries.get?`: the entry of each key. This file says, for every operation,
what the look-up of an arbitrary key answers afterwards; later proofs cite these laws and do not
open the operations.

* `eq_of_get?`: caches that answer every look-up alike are the same.
* `add_cases`: a registration is either refused, because the key already has a function of that
  name, or it puts the function into the entry of the key, which it makes if there is none.
* `get?_remove`, `get?_removeSession`, `get?_purge`, `get?_clear`: each look-up is left alone or
  answers nothing.
* `kind_*` and `lastPurge_*`: only a purge touches `lastPurge`, and nothing touches the kind.
-/

namespace Switchboard

open Std

/-! ## Entries -/

namespace Entry

/-- A new entry has no function. -/
@[simp] theorem get?_new (key : CacheKey) (now : Nat) (name : String) :
    (new key now).get? name = none := rfl

/-- A function that is put into an entry is found under its name, the others as before. -/
theorem get?_insert (e : Entry) (d : ToolDefinition) (name : String) :
    (e.insert d).get? name = if name = d.name then some d else e.get? name :=
  Table.get?_insert _ _ _ _

/-- An entry that gets a function keeps the time of its creation. -/
@[simp] theorem created_insert (e : Entry) (d : ToolDefinition) :
    (e.insert d).created = e.created :=
  rfl

/-- A function stands under its own name. -/
theorem name_of_get? {e : Entry} {name : String} {d : ToolDefinition} (h : e.get? name = some d) :
    d.name = name :=
  e.name_eq h

/-- No function stands under a blank name. -/
theorem get?_of_blank (e : Entry) {name : String} (h : Text.allBlank name = true) :
    e.get? name = none := by
  cases hd : e.get? name with
  | none => rfl
  | some d =>
      have hname := d.name_not_blank
      rw [name_of_get? hd, h] at hname
      cases hname

end Entry

namespace FunctionCache

/-- Caches that answer every look-up alike are the same. -/
theorem eq_of_get? {c c' : FunctionCache} (hkind : c.kind = c'.kind)
    (hpurge : c.lastPurge = c'.lastPurge)
    (hget : ∀ key, c.entries.get? key = c'.entries.get? key) : c = c' := by
  obtain ⟨kind, entries, lastPurge⟩ := c
  obtain ⟨kind', entries', lastPurge'⟩ := c'
  obtain rfl : kind = kind' := hkind
  obtain rfl : lastPurge = lastPurge' := hpurge
  obtain rfl : entries = entries' := Table.ext_get? hget
  rfl

/-! ## Looking up -/

/-- An entry is found iff the table has it under the key. -/
theorem get_eq_ok_iff {c : FunctionCache} {k : CacheKey} {e : Entry} :
    c.get k = .ok e ↔ c.entries.get? k = some e := by
  unfold get
  cases c.entries.get? k <;> simp

/-- An entry is not found iff the table has none under the key, and then that is the error. -/
theorem get_eq_error_iff {c : FunctionCache} {k : CacheKey} {err : CacheError} :
    c.get k = .error err ↔ c.entries.get? k = none ∧ err = .notFound c.kind k := by
  unfold get
  cases c.entries.get? k <;> simp [eq_comm]

/-- A key is present iff the table has an entry under it. -/
theorem contains_iff {c : FunctionCache} {k : CacheKey} :
    c.contains k = true ↔ ∃ e, c.entries.get? k = some e :=
  Option.isSome_iff_exists

/-- A key is not present iff the table has no entry under it. -/
theorem contains_eq_false_iff {c : FunctionCache} {k : CacheKey} :
    c.contains k = false ↔ c.entries.get? k = none :=
  Option.isSome_eq_false_iff.trans Option.isNone_iff_eq_none

/-- A function is found where its entry is found and has it. -/
theorem function_eq_ok_iff {c : FunctionCache} {k : CacheKey} {name : String} {d : ToolDefinition} :
    c.function k name = .ok d ↔ ∃ e, c.entries.get? k = some e ∧ e.get? name = some d := by
  unfold function get
  cases c.entries.get? k with
  | none => simp
  | some e => cases h : e.get? name <;> simp [h]

/-- A function that is not found is missing from its entry, or the entry is missing. -/
theorem function_eq_error {c : FunctionCache} {k : CacheKey} {name : String}
    (h : ∀ d, c.function k name ≠ .ok d) :
    c.function k name =
      .error (if c.contains k then .functionNotFound c.kind k name else .notFound c.kind k) := by
  cases hk : c.entries.get? k with
  | none =>
      have hout : c.contains k = false := contains_eq_false_iff.2 hk
      simp [function, get, hk, hout]
  | some e =>
      have hin : c.contains k = true := contains_iff.2 ⟨e, hk⟩
      cases hd : e.get? name with
      | none => simp [function, get, hk, hd, hin]
      | some d => exact absurd (function_eq_ok_iff.2 ⟨e, hk, hd⟩) (h d)

/-! ## Registering -/

/-- What a registration can do: it is refused where the entry of the key has a function of that
name; otherwise the entry, or a new one, gets the function. -/
theorem add_cases (c : FunctionCache) (now : Nat) (key : CacheKey) (d : ToolDefinition) :
    (∃ e d', c.entries.get? key = some e ∧ e.get? d.name = some d' ∧
      c.add now key d = .error (.alreadyDeclared c.kind key d.name)) ∨
    (∃ e, e = (c.entries.get? key).getD (.new key now) ∧ e.get? d.name = none ∧
      c.add now key d = .ok { c with entries := c.entries.insert key (e.insert d) }) := by
  unfold add
  cases hk : c.entries.get? key with
  | none =>
      right
      refine ⟨.new key now, rfl, rfl, ?_⟩
      simp [Table.contains, Entry.new]
  | some e =>
      cases hd : e.get? d.name with
      | none =>
          right
          refine ⟨e, rfl, hd, ?_⟩
          have : e.functions.get? d.name = none := hd
          simp [Table.contains, this]
      | some d' =>
          left
          refine ⟨e, d', rfl, hd, ?_⟩
          have : e.functions.get? d.name = some d' := hd
          simp [Table.contains, this]

/-! ## Taking out -/

/-- Taking out an absent key is erasing it as well. -/
theorem remove_snd (c : FunctionCache) (key : CacheKey) :
    (c.remove key).2 = { c with entries := c.entries.erase key } := by
  unfold remove
  split
  · rfl
  · next hk =>
      have : c.entries.erase key = c.entries := by
        apply Table.ext_get?
        intro k
        rw [Table.get?_erase]
        split
        · next heq => rw [heq, hk]
        · rfl
      rw [this]

/-- A removal takes out the entry of its key and leaves the others. -/
theorem get?_remove (c : FunctionCache) (key k : CacheKey) :
    (c.remove key).2.entries.get? k = if k = key then none else c.entries.get? k := by
  rw [remove_snd]
  exact Table.get?_erase _ _ _

/-- The keys taken out one after the other are out, and every other key is as before. -/
theorem get?_removeAll (c : FunctionCache) (keys : List CacheKey) (k : CacheKey) :
    (c.removeAll keys).2.entries.get? k = if k ∈ keys then none else c.entries.get? k := by
  induction keys generalizing c with
  | nil => simp [removeAll]
  | cons key rest ih =>
      have hstep : (c.removeAll (key :: rest)).2 = ((c.remove key).2.removeAll rest).2 := rfl
      rw [hstep, ih, get?_remove]
      by_cases hkey : k = key <;> by_cases hrest : k ∈ rest <;> simp [hkey, hrest]

/-- The keys of a session are those of its entries. -/
theorem mem_sessionKeys {c : FunctionCache} {session : String} {k : CacheKey} :
    k ∈ c.sessionKeys session ↔ (∃ e, c.entries.get? k = some e) ∧ k.session = session := by
  simp only [sessionKeys, List.mem_filter, Table.mem_keys_iff, decide_eq_true_eq]

/-- The whole session is out, whatever the assistant, and every other session is as before. -/
theorem get?_removeSession (c : FunctionCache) (session : String) (k : CacheKey) :
    (c.removeSession session).2.entries.get? k =
      if k.session = session then none else c.entries.get? k := by
  rw [removeSession, get?_removeAll]
  by_cases hs : k.session = session
  · cases hk : c.entries.get? k with
    | none => simp [hs]
    | some e =>
        have hmem : k ∈ c.sessionKeys session := mem_sessionKeys.2 ⟨⟨e, hk⟩, hs⟩
        rw [if_pos hmem, if_pos hs]
  · have hmem : k ∉ c.sessionKeys session := fun h => hs (mem_sessionKeys.1 h).2
    rw [if_neg hmem, if_neg hs]

/-- A purge filters entries by their age, each for itself. -/
theorem get?_purge (c : FunctionCache) (now maxAge : Nat) (k : CacheKey) :
    (c.purge now maxAge).2.entries.get? k =
      (c.entries.get? k).filter fun e => e.age now ≤ maxAge :=
  Table.get?_filter _ _ _

/-- A purge leaves what is not older than the greatest age. -/
theorem get?_purge_eq_some_iff {c : FunctionCache} {now maxAge : Nat} {k : CacheKey} {e : Entry} :
    (c.purge now maxAge).2.entries.get? k = some e ↔
      c.entries.get? k = some e ∧ e.age now ≤ maxAge := by
  rw [get?_purge, Option.filter_eq_some_iff, decide_eq_true_eq]

/-- A cleared cache has no entry. -/
@[simp] theorem get?_clear (c : FunctionCache) (k : CacheKey) : c.clear.entries.get? k = none := rfl

/-! ## The kind and the last purge -/

/-- A removal leaves the kind of the cache. -/
@[simp] theorem kind_remove (c : FunctionCache) (key : CacheKey) :
    (c.remove key).2.kind = c.kind := by
  rw [remove_snd]

/-- A removal leaves the time of the last purge. -/
@[simp] theorem lastPurge_remove (c : FunctionCache) (key : CacheKey) :
    (c.remove key).2.lastPurge = c.lastPurge := by
  rw [remove_snd]

/-- Removals one after the other leave the kind of the cache. -/
@[simp] theorem kind_removeAll (c : FunctionCache) (keys : List CacheKey) :
    (c.removeAll keys).2.kind = c.kind := by
  induction keys generalizing c with
  | nil => rfl
  | cons key rest ih => exact (ih _).trans (kind_remove c key)

/-- Removals one after the other leave the time of the last purge. -/
@[simp] theorem lastPurge_removeAll (c : FunctionCache) (keys : List CacheKey) :
    (c.removeAll keys).2.lastPurge = c.lastPurge := by
  induction keys generalizing c with
  | nil => rfl
  | cons key rest ih => exact (ih _).trans (lastPurge_remove c key)

/-- The end of a session leaves the kind of the cache. -/
@[simp] theorem kind_removeSession (c : FunctionCache) (session : String) :
    (c.removeSession session).2.kind = c.kind :=
  kind_removeAll c _

/-- The end of a session leaves the time of the last purge. -/
@[simp] theorem lastPurge_removeSession (c : FunctionCache) (session : String) :
    (c.removeSession session).2.lastPurge = c.lastPurge :=
  lastPurge_removeAll c _

/-- A purge leaves the kind of the cache. -/
@[simp] theorem kind_purge (c : FunctionCache) (now maxAge : Nat) :
    (c.purge now maxAge).2.kind = c.kind := rfl

/-- A purge is the last one from now on. -/
@[simp] theorem lastPurge_purge (c : FunctionCache) (now maxAge : Nat) :
    (c.purge now maxAge).2.lastPurge = some now := rfl

/-- A clearing leaves the kind of the cache. -/
@[simp] theorem kind_clear (c : FunctionCache) : c.clear.kind = c.kind := rfl

/-- A clearing is no purge. -/
@[simp] theorem lastPurge_clear (c : FunctionCache) : c.clear.lastPurge = c.lastPurge := rfl

end FunctionCache

end Switchboard
