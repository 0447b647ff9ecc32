import Switchboard.Proofs.Cache.Invariant
import Switchboard.Proofs.Service.Accounts

/-!
# What is shown of a cache

A snapshot shows what a cache holds, and nothing of how it has come to hold it or of what its
functions do.

* `Lists`: rows that list a finite map, each key once and in order.
* `FunctionCache.ShownBy`: what the JSON form of a snapshot says, given the look-ups of the cache.
* `FunctionCache.Keyed`: an entry knows the key that it stands under. Every cache with a history is
  so (`keyed_run`); that a function knows its name is part of an `Entry`.
* `FunctionCache.Enumerates`, `FunctionCache.collected`: a snapshot made of entries and functions in
  any order.
* `FunctionCache.bare`: a cache without handlers and hooks. `snapshot_bare`: it is shown alike,
  `bare_run`: what is done to it comes to the same.
* `FunctionCache.Alike`: caches that hold the same, apart from handlers and hooks.
* **`snapshot_canonical`**: a snapshot shows all that the cache holds in the one order that there
  is, and depends on nothing else.
-/

namespace Switchboard

open Std

/-! ## Listing a table -/

/-- **Rows list a finite map**: each of its keys once, in increasing order, with what there is to be
shown of it. -/
structure Lists {κ ν : Type} (before : κ → κ → Prop) (find : κ → Option ν)
    (shows : κ → ν → Json → Prop) (keys : List κ) (rows : List Json) : Prop where
  increasing : keys.Pairwise before
  complete : ∀ k, k ∈ keys ↔ ∃ v, find k = some v
  shown : List.Forall₂ (fun k row => ∃ v, find k = some v ∧ shows k v row) keys rows

namespace Table

variable {κ ν β : Type} [Ord κ]

/-- The table with other values in the place of its own. -/
def image (f : ν → β) (t : Table κ ν) : Table κ β where
  entries := t.entries.map fun b => (b.1, f b.2)
  sorted := by
    unfold Assoc.Sorted
    rw [List.pairwise_map]
    exact t.sorted

/-- A look-up in an image is the image of the look-up. -/
theorem get?_image (f : ν → β) (t : Table κ ν) (k : κ) :
    (t.image f).get? k = (t.get? k).map f := by
  obtain ⟨bs, hbs⟩ := t
  show Assoc.get? k (bs.map fun b => (b.1, f b.2)) = (Assoc.get? k bs).map f
  clear hbs
  induction bs with
  | nil => rfl
  | cons b rest ih =>
      rw [List.map_cons, Assoc.get?, Assoc.get?, ih]
      split <;> rfl

/-- The values of an image are the images of the values, in order. -/
theorem values_image (f : ν → β) (t : Table κ ν) : (t.image f).values = t.values.map f := by
  rw [values, values, image, List.map_map, List.map_map]
  rfl

/-- An image has as many bindings. -/
theorem size_image (f : ν → β) (t : Table κ ν) : (t.image f).size = t.size :=
  List.length_map _

variable [TransOrd κ] [LawfulEqOrd κ] [DecidableEq κ]

/-- The image of an insertion is an insertion into the image. -/
theorem image_insert (f : ν → β) (t : Table κ ν) (k : κ) (v : ν) :
    (t.insert k v).image f = (t.image f).insert k (f v) := by
  apply ext_get?
  intro k'
  rw [get?_image, get?_insert, get?_insert, get?_image]
  split <;> rfl

/-- Rows made of the values of a table, in its order, list it. -/
theorem lists_of_shows (t : Table κ ν) {before : κ → κ → Prop}
    (hbefore : ∀ {k k'}, compare k k' = .lt → before k k') {shows : κ → ν → Json → Prop}
    {row : ν → Json} (h : ∀ {k v}, t.get? k = some v → shows k v (row v)) :
    Lists before t.get? shows t.keys (t.values.map row) where
  increasing := by
    rw [keys, List.pairwise_map]
    exact t.sorted.imp hbefore
  complete _ := t.mem_keys_iff
  shown := by
    rw [keys, values, List.map_map, List.forall₂_map_left_iff, List.forall₂_map_right_iff,
      List.forall₂_same]
    rintro ⟨k, v⟩ hb
    have hget := t.mem_entries_iff.1 hb
    exact ⟨v, hget, h hget⟩

/-- **The order of enumeration does not matter**: what has been made of the values of a table, and
tells their keys, is sorted by them into the order of the table. -/
theorem mergeSort_eq_values (t : Table κ ν) {f : ν → β} {key : β → κ}
    (hkey : ∀ {k v}, t.get? k = some v → key (f v) = k) {rows : List β}
    (h : rows.Perm (t.values.map f)) :
    rows.mergeSort (fun a b => (compare (key a) (key b)).isLE) = t.values.map f := by
  have hfound : ∀ {a}, a ∈ t.values.map f →
      ∃ k v, t.get? k = some v ∧ a = f v ∧ key a = k := by
    intro a ha
    obtain ⟨v, hv, rfl⟩ := List.mem_map.1 ha
    obtain ⟨⟨k, v⟩, hb, rfl⟩ := List.mem_map.1 hv
    have hget := t.mem_entries_iff.1 hb
    exact ⟨k, v, hget, rfl, hkey hget⟩
  have hperm := (List.mergeSort_perm rows fun a b => (compare (key a) (key b)).isLE).trans h
  refine List.Perm.eq_of_pairwise ?_ (List.pairwise_mergeSort ?_ ?_ rows) ?_ hperm
  · -- two rows that do not come before each other are of one key
    intro a b ha hb hab hba
    obtain ⟨k, v, hv, rfl, hk⟩ := hfound (hperm.mem_iff.1 ha)
    obtain ⟨k', v', hv', rfl, hk'⟩ := hfound hb
    have heq : compare (key (f v)) (key (f v')) = .eq := OrientedCmp.isLE_antisymm hab hba
    obtain rfl : k = k' := by rw [← hk, ← hk', LawfulEqCmp.eq_of_compare heq]
    rw [Option.some.inj (hv.symm.trans hv')]
  · exact fun a b c => TransCmp.isLE_trans
  · intro a b
    cases hcompare : compare (key a) (key b) with
    | gt => rw [OrientedCmp.lt_of_gt hcompare]; rfl
    | _ => rfl
  · rw [values, List.map_map, List.pairwise_map]
    refine t.sorted.imp_of_mem fun {b b'} hb hb' hlt => ?_
    show (compare (key (f b.2)) (key (f b'.2))).isLE = true
    rw [hkey (t.mem_entries_iff.1 hb), hkey (t.mem_entries_iff.1 hb'), hlt]
    rfl

end Table

/-! ## What is shown -/

/-- The row shows a parameter. -/
structure Param.ShownBy (p : Param) (row : Json) : Prop where
  name : row.get? "name" = some (.str p.name)
  kind : row.get? "kind" = some (.str p.kind.name)

/-- **The row shows a function** that stands under a name. -/
structure ToolDefinition.ShownBy (name : String) (d : ToolDefinition) (row : Json) : Prop where
  /-- The name. -/
  name : row.get? "name" = some (.str name)
  /-- Owner and method. -/
  target : row.get? "target" = some (.str (d.owner ++ "." ++ d.method))
  /-- The parameters, in the order of their declaration. -/
  params : ∃ rows, row.get? "params" = some (.arr rows) ∧
    List.Forall₂ Param.ShownBy d.params rows
  /-- Whether the platform gets an empty result. -/
  fireAndForget : row.get? "fireAndForget" = some (.bool d.fireAndForget)
  /-- The description, unless it is empty. -/
  description : row.get? "description" =
    if d.description.isEmpty then none else some (.str d.description)

/-- **The row shows an entry** that stands under a key, at the time `now`. -/
structure Entry.ShownBy (now : Nat) (key : CacheKey) (e : Entry) (row : Json) : Prop where
  /-- The session. -/
  session : row.get? "sessionId" = some (.str key.session)
  /-- The assistant. -/
  assistant : row.get? "assistantId" = some (.str key.assistant)
  /-- The age, in whole seconds that have passed. -/
  age : ∃ seconds : Nat, row.get? "ageSeconds" = some (.int seconds) ∧
    1000 * seconds ≤ e.age now ∧ e.age now < 1000 * (seconds + 1)
  /-- The functions, in the order of the bytes of their names. -/
  functions : ∃ names rows, row.get? "functions" = some (.arr rows) ∧
    Lists (fun name name' => Text.encodeUtf8 name < Text.encodeUtf8 name') e.get?
      ToolDefinition.ShownBy names rows

/-- **The value shows a cache**, at the time `now`. -/
structure FunctionCache.ShownBy (clock : Nat → String) (now : Nat) (c : FunctionCache)
    (v : Json) : Prop where
  /-- What it holds. -/
  kind : v.get? "kind" = some (.str c.kind.name)
  /-- The last purge. -/
  lastPurge : v.get? "lastPurge" =
    some ((c.lastPurge.map fun time => Json.str (clock time)).getD .null)
  /-- The entries in the order of their keys, and how many they are. -/
  entries : ∃ keys rows, v.get? "entryCount" = some (.int keys.length) ∧
    v.get? "entries" = some (.arr rows) ∧
    Lists CacheKey.Precedes (fun key => (c.get key).toOption) (Entry.ShownBy now) keys rows

/-- The snapshot of a function shows it under its name. -/
theorem ToolDefinition.shownBy_snapshot (d : ToolDefinition) :
    d.ShownBy d.name d.snapshot.toJson := by
  have hget : ∀ name, d.snapshot.toJson.get? name = _ := fun name => Json.get?_object name _
  constructor
  case params =>
    refine ⟨d.snapshot.params.map fun p => .object [("name", .str p.1), ("kind", .str p.2.name)],
      ?_, ?_⟩
    · rw [hget]
      cases d.snapshot.description.isEmpty <;> rfl
    · rw [snapshot, List.map_map, List.forall₂_map_right_iff, List.forall₂_same]
      exact fun p _ => ⟨Json.get?_object _ _, Json.get?_object _ _⟩
  all_goals
    rw [hget]
    unfold snapshot
    cases d.description.isEmpty <;> rfl

/-- The snapshot of an entry shows it under its key. -/
theorem Entry.shownBy_snapshot (e : Entry) (now : Nat) :
    e.ShownBy now e.key (e.snapshot now).toJson := by
  have hget : ∀ name, (e.snapshot now).toJson.get? name = _ := fun name => Json.get?_object name _
  constructor
  case age => exact ⟨e.age now / 1000, hget _, by omega, by omega⟩
  case functions =>
    refine ⟨e.names, _, hget _, ?_⟩
    show Lists _ _ _ _
      ((e.functions.values.map ToolDefinition.snapshot).map FunctionSnapshot.toJson)
    rw [List.map_map]
    refine e.functions.lists_of_shows Text.encodeUtf8_lt_iff.2 fun {name d} hd => ?_
    rw [← e.name_eq hd]
    exact d.shownBy_snapshot
  all_goals exact hget _

namespace FunctionCache

/-! ## Entries know their keys -/

/-- **Every entry knows the key that it stands under.** -/
def Keyed (c : FunctionCache) : Prop := ∀ key e, c.entries.get? key = some e → e.key = key

/-- **Whatever has been done to a new cache, its entries know their keys.** -/
theorem keyed_run (kind : CacheKind) (start : Nat) (h : List Op) :
    (run (fresh kind start) h).cache.Keyed := by
  have hkeyed : Persists (fun _ => True) fun _ key e => e.key = key :=
    ⟨fun _ _ _ _ => rfl, fun _ _ _ _ _ _ h => h, fun _ _ _ _ _ h => h⟩
  exact hkeyed.run kind start fun _ _ _ => trivial

/-- An entry is found iff the table has it. -/
theorem toOption_get (c : FunctionCache) (key : CacheKey) :
    (c.get key).toOption = c.entries.get? key := by
  unfold get
  cases c.entries.get? key <;> rfl

/-- The snapshot of a cache shows it, if its entries know their keys. -/
theorem Keyed.shownBy_snapshot {c : FunctionCache} (h : c.Keyed) (clock : Nat → String)
    (now : Nat) :
    c.ShownBy clock now ((c.snapshot now).toJson clock) := by
  have hget : ∀ name, ((c.snapshot now).toJson clock).get? name = _ :=
    fun name => Json.get?_object name _
  constructor
  case entries =>
    refine ⟨c.entries.keys, _, ?_, hget _, ?_⟩
    · rw [hget, Table.keys, List.length_map]
      rfl
    · simp only [toOption_get]
      show Lists _ _ _ _ ((c.entries.values.map fun e => e.snapshot now).map EntrySnapshot.toJson)
      rw [List.map_map]
      refine c.entries.lists_of_shows CacheKey.precedes_iff.2 fun {key e} he => ?_
      rw [← h key e he]
      exact e.shownBy_snapshot now
  all_goals exact hget _

/-! ## Enumerations -/

/-- **The entries of a cache in some order**, and with each its functions in some order. -/
structure Enumerates (c : FunctionCache) (listing : List (Entry × List ToolDefinition)) :
    Prop where
  entries : (listing.map Prod.fst).Perm c.entries.values
  functions : ∀ e ∈ listing, e.2.Perm e.1.functions.values

end FunctionCache

/-- What is made of an entry whose functions have been enumerated: they are sorted by name. -/
def Entry.collected (now : Nat) (e : Entry) (ds : List ToolDefinition) : EntrySnapshot :=
  ⟨e.key, e.age now / 1000,
    (ds.map ToolDefinition.snapshot).mergeSort fun f f' => (compare f.name f'.name).isLE⟩

/-- A snapshot of an entry made of its functions in any order is its snapshot. -/
theorem Entry.collected_eq {e : Entry} {ds : List ToolDefinition} (h : ds.Perm e.functions.values)
    (now : Nat) :
    e.collected now ds = e.snapshot now := by
  have hname : ∀ {name d}, e.functions.get? name = some d → d.snapshot.name = name :=
    fun hd => e.name_eq hd
  rw [collected, e.functions.mergeSort_eq_values hname (h.map _)]
  rfl

namespace FunctionCache

/-- What is made of a cache whose entries and functions have been enumerated: entries are sorted by
key. -/
def collected (c : FunctionCache) (now : Nat) (listing : List (Entry × List ToolDefinition)) :
    CacheSnapshot :=
  ⟨c.kind, listing.length, c.lastPurge,
    (listing.map fun e => e.1.collected now e.2).mergeSort fun e e' =>
      (compare e.key e'.key).isLE⟩

/-- **Entries and functions may be enumerated in any order.** -/
theorem Keyed.collected_eq {c : FunctionCache} (h : c.Keyed)
    {listing : List (Entry × List ToolDefinition)} (hlisting : c.Enumerates listing) (now : Nat) :
    c.collected now listing = c.snapshot now := by
  have hrows : listing.map (fun e => e.1.collected now e.2) =
      (listing.map Prod.fst).map fun e => e.snapshot now := by
    rw [List.map_map]
    exact List.map_congr_left fun e he => Entry.collected_eq (hlisting.functions e he) now
  have hlength : listing.length = c.size := by
    have hlengths := hlisting.entries.length_eq
    rwa [List.length_map, Table.values, List.length_map] at hlengths
  have hkey : ∀ {key e}, c.entries.get? key = some e → (e.snapshot now).key = key :=
    fun {key e} he => h key e he
  rw [collected, hrows, c.entries.mergeSort_eq_values hkey (hlisting.entries.map _), hlength]
  rfl

end FunctionCache

/-! ## Caches without what their functions do -/

/-- The definition without its handler and its hooks. -/
def ToolDefinition.bare (d : ToolDefinition) : ToolDefinition :=
  { d with handler := fun _ => .returned "", lifecycle := none }

namespace Entry

/-- The entry without the handlers and hooks of its functions. -/
def bare (e : Entry) : Entry where
  key := e.key
  created := e.created
  functions := e.functions.image ToolDefinition.bare
  name_eq {name d} h := by
    rw [Table.get?_image] at h
    obtain ⟨d', hd', rfl⟩ := Option.map_eq_some_iff.1 h
    have hname : d'.name = name := e.name_eq hd'
    exact hname

/-- A function is looked up bare in a bare entry. -/
theorem get?_bare (e : Entry) (name : String) :
    e.bare.get? name = (e.get? name).map ToolDefinition.bare :=
  Table.get?_image _ _ _

/-- A function that is put into an entry is put bare into the bare one. -/
theorem bare_insert (e : Entry) (d : ToolDefinition) :
    (e.insert d).bare = e.bare.insert d.bare := by
  unfold insert bare
  rw [Entry.mk.injEq]
  exact ⟨rfl, rfl, Table.image_insert _ _ _ _⟩

/-- Entries that hold the same, apart from handlers and hooks, are the same when bare. -/
theorem bare_eq_of_get? {e e' : Entry} (hkey : e.key = e'.key) (hcreated : e.created = e'.created)
    (hfunctions : ∀ name, (e.get? name).map ToolDefinition.bare =
      (e'.get? name).map ToolDefinition.bare) :
    e.bare = e'.bare := by
  have htables : e.functions.image ToolDefinition.bare = e'.functions.image ToolDefinition.bare :=
    Table.ext_get? fun name => by
      rw [Table.get?_image, Table.get?_image]
      exact hfunctions name
  unfold bare
  rw [Entry.mk.injEq]
  exact ⟨hkey, hcreated, htables⟩

/-- A snapshot shows nothing of handlers and hooks. -/
theorem snapshot_bare (e : Entry) (now : Nat) : e.bare.snapshot now = e.snapshot now := by
  unfold snapshot age bare
  dsimp only
  rw [Table.values_image, List.map_map]
  rfl

end Entry

namespace FunctionCache

/-- The cache without the handlers and hooks of its functions. -/
def bare (c : FunctionCache) : FunctionCache := { c with entries := c.entries.image Entry.bare }

/-- A snapshot shows nothing of handlers and hooks. -/
theorem snapshot_bare (c : FunctionCache) (now : Nat) : c.bare.snapshot now = c.snapshot now := by
  have hrows : ((fun e => e.snapshot now) ∘ Entry.bare) = fun e => e.snapshot now :=
    funext fun e => e.snapshot_bare now
  unfold snapshot size bare
  dsimp only
  rw [Table.size_image, Table.values_image, List.map_map, hrows]

section bare

variable {c c' : FunctionCache}

/-- A bare cache is of the same kind. -/
@[simp] theorem kind_bare (c : FunctionCache) : c.bare.kind = c.kind := rfl

/-- A bare cache has been purged at the same time. -/
@[simp] theorem lastPurge_bare (c : FunctionCache) : c.bare.lastPurge = c.lastPurge := rfl

/-- An entry is looked up bare in a bare cache. -/
theorem get?_bare (c : FunctionCache) (key : CacheKey) :
    c.bare.entries.get? key = (c.entries.get? key).map Entry.bare :=
  Table.get?_image _ _ _

/-! ### Histories -/

/-- The operation, without the handler and the hooks of what it registers. -/
def Op.bare : Op → Op
  | add key d => add key d.bare
  | op => op

/-- A registration is accepted or refused without a look at handlers and hooks. -/
theorem bare_register (c : FunctionCache) (now : Nat) (key : CacheKey) (d : ToolDefinition) :
    (c.register now key d).2.bare = (c.bare.register now key d.bare).2 := by
  have hentry : (c.bare.entries.get? key).getD (.new key now) =
      ((c.entries.get? key).getD (.new key now)).bare := by
    rw [get?_bare]
    cases c.entries.get? key <;> rfl
  rcases register_cases c now key d with ⟨e, d', he, hd, hreg⟩ | ⟨e, he, hfree, hreg⟩ <;>
    rcases register_cases c.bare now key d.bare with
      ⟨e₂, d₂, he₂, hd₂, hreg₂⟩ | ⟨e₂, he₂, hfree₂, hreg₂⟩
  · rw [hreg, hreg₂]
  · -- refused, but accepted without handlers
    rw [hentry, he, Option.getD_some] at he₂
    rw [he₂, Entry.get?_bare, show d.bare.name = d.name from rfl, hd] at hfree₂
    cases hfree₂
  · -- accepted, but refused without handlers
    rw [he₂, Option.getD_some, ← he] at hentry
    rw [hentry, Entry.get?_bare, show d.bare.name = d.name from rfl, hfree] at hd₂
    cases hd₂
  · rw [hentry, ← he] at he₂
    rw [hreg, hreg₂, he₂, ← Entry.bare_insert]
    exact congrArg (fun entries => { c with entries }) (Table.image_insert _ _ _ _)

/-- What an operation makes of a bare cache is what it makes of the cache, bare. -/
theorem bare_perform (s : Clocked) (op : Op) :
    (op.perform s).cache.bare = (op.bare.perform ⟨s.cache.bare, s.now⟩).cache := by
  cases op with
  | add key d => exact bare_register s.cache s.now key d
  | remove key =>
      refine eq_of_get? ?_ ?_ fun k => ?_
      · simp [Op.perform, Op.bare]
      · simp [Op.perform, Op.bare]
      · show (s.cache.remove key).2.bare.entries.get? k =
          (s.cache.bare.remove key).2.entries.get? k
        rw [get?_bare, get?_remove, get?_remove, get?_bare]
        split <;> rfl
  | removeSession session =>
      refine eq_of_get? ?_ ?_ fun k => ?_
      · simp [Op.perform, Op.bare]
      · simp [Op.perform, Op.bare]
      · show (s.cache.removeSession session).2.bare.entries.get? k =
          (s.cache.bare.removeSession session).2.entries.get? k
        rw [get?_bare, get?_removeSession, get?_removeSession, get?_bare]
        split <;> rfl
  | purge maxAge =>
      refine eq_of_get? rfl rfl fun k => ?_
      show (s.cache.purge s.now maxAge).2.bare.entries.get? k =
        (s.cache.bare.purge s.now maxAge).2.entries.get? k
      rw [get?_bare, get?_purge, get?_purge, get?_bare, Option.filter_map]
      rfl
  | clear => rfl
  | get _ => rfl
  | function _ _ => rfl
  | advance _ => rfl

/-- **What is done to a cache does not depend on handlers and hooks**: by induction on the history
from its end. -/
theorem bare_run (s : Clocked) (h : List Op) :
    (run s h).cache.bare = (run ⟨s.cache.bare, s.now⟩ (h.map Op.bare)).cache ∧
      (run s h).now = (run ⟨s.cache.bare, s.now⟩ (h.map Op.bare)).now := by
  induction h using List.reverseRecOn with
  | nil => exact ⟨rfl, rfl⟩
  | append_singleton h op ih =>
      obtain ⟨hcache, hnow⟩ := ih
      rw [List.map_append, List.map_singleton, run_concat, run_concat, bare_perform, hcache, hnow]
      refine ⟨rfl, ?_⟩
      cases op <;> first | exact hnow | exact congrArg (· + _) hnow

end bare

/-! ## Caches that hold the same -/

/-- **The caches hold the same**: the same keys, with entries created at the same times, and under
each the same definitions, which may have different handlers and hooks. -/
structure Alike (c c' : FunctionCache) : Prop where
  kind : c.kind = c'.kind
  lastPurge : c.lastPurge = c'.lastPurge
  keys : ∀ key, c.contains key = c'.contains key
  created : ∀ key e e', c.get key = .ok e → c'.get key = .ok e' → e.created = e'.created
  functions : ∀ key name, (c.function key name).toOption.map ToolDefinition.bare =
    (c'.function key name).toOption.map ToolDefinition.bare

section alike

variable {c c' : FunctionCache}

/-- A function of an entry is found in the cache iff the entry has it. -/
theorem toOption_function {key : CacheKey} {e : Entry} (he : c.entries.get? key = some e)
    (name : String) :
    (c.function key name).toOption = e.get? name := by
  unfold function
  rw [get_eq_ok_iff.2 he]
  dsimp only
  cases e.get? name <;> rfl

/-- Apart from handlers and hooks such caches are the same. -/
theorem Alike.bare_eq (h : c.Alike c') (hc : c.Keyed) (hc' : c'.Keyed) : c.bare = c'.bare := by
  refine eq_of_get? h.kind h.lastPurge fun key => ?_
  rw [get?_bare, get?_bare]
  have hkey : (c.entries.get? key).isSome = (c'.entries.get? key).isSome := h.keys key
  cases he : c.entries.get? key with
  | none =>
      cases he' : c'.entries.get? key with
      | none => rfl
      | some e' =>
          rw [he, he'] at hkey
          cases hkey
  | some e =>
      cases he' : c'.entries.get? key with
      | none =>
          rw [he, he'] at hkey
          cases hkey
      | some e' =>
          have hsame : e.key = e'.key := (hc key e he).trans (hc' key e' he').symm
          have hcreated := h.created key e e' (get_eq_ok_iff.2 he) (get_eq_ok_iff.2 he')
          refine congrArg some (Entry.bare_eq_of_get? hsame hcreated fun name => ?_)
          rw [← toOption_function he, ← toOption_function he']
          exact h.functions key name

/-- **Caches that hold the same are shown alike**, whatever has been done to them. -/
theorem Alike.snapshot_eq (h : c.Alike c') (hc : c.Keyed) (hc' : c'.Keyed) (now : Nat) :
    c.snapshot now = c'.snapshot now := by
  rw [← c.snapshot_bare, h.bare_eq hc hc', c'.snapshot_bare]

end alike

/-! ## Snapshots -/

/-- **The snapshot of a cache is faithful and canonical.** The cache has a history, which began with
nothing in it. -/
structure Canonical (clock : Nat → String) (s₀ : Clocked) (h : List Op) : Prop where
  /-- Its JSON form shows the cache. -/
  shown : ∀ now, (run s₀ h).cache.ShownBy clock now
    (((run s₀ h).cache.snapshot now).toJson clock)
  /-- It is the same in whatever order entries and functions are enumerated. -/
  enumerated : ∀ now listing, (run s₀ h).cache.Enumerates listing →
    (run s₀ h).cache.collected now listing = (run s₀ h).cache.snapshot now
  /-- It is the same for every cache that holds the same, whatever its history. -/
  determined : ∀ kind' start' h', (run s₀ h).cache.Alike (run (fresh kind' start') h').cache →
    ∀ now, (run s₀ h).cache.snapshot now = (run (fresh kind' start') h').cache.snapshot now
  /-- It is the same for every history that registers the same with other handlers and hooks. -/
  supplied : ∀ h', h'.map Op.bare = h.map Op.bare →
    ∀ now, (run s₀ h').cache.snapshot now = (run s₀ h).cache.snapshot now
  /-- It is the same after a message that asks for calls, whatever the arguments. -/
  called : ∀ (cs : Caches) kind, cs.of kind = (run s₀ h).cache →
    ∀ production time app (asked : CacheKind) payload now,
      ((dispatch production time app cs asked.asking payload).caches.of kind).snapshot now =
        (run s₀ h).cache.snapshot now

/-- Every cache with a history has a canonical snapshot. -/
theorem canonical_run (clock : Nat → String) (kind : CacheKind) (start : Nat) (h : List Op) :
    Canonical clock (fresh kind start) h := by
  have hkeyed := keyed_run kind start h
  constructor
  case shown => exact hkeyed.shownBy_snapshot clock
  case enumerated => exact fun now _ hlisting => hkeyed.collected_eq hlisting now
  case determined => exact fun kind' start' h' halike =>
    halike.snapshot_eq hkeyed (keyed_run kind' start' h')
  case supplied =>
    intro h' hsame now
    rw [← snapshot_bare, (bare_run _ h').1, hsame, ← (bare_run _ h).1, snapshot_bare]
  case called =>
    intro cs kind' hcs production time app asked payload now
    have hcaches : (dispatch production time app cs asked.asking payload).caches = cs := by
      cases asked with
      | toolCall => exact caches_dispatchToolCalls cs _
      | function => exact caches_dispatchFunctionCall cs _
    rw [hcaches, hcs]

/-- **Snapshots are faithful and canonical**, and the order of their entries is not that of display
texts. -/
theorem snapshot_canonical :
    (∀ clock kind start h, Canonical clock (fresh kind start) h) ∧
      ∃ k k' : CacheKey, k.Precedes k' ∧
        Text.encodeUtf8 k'.display < Text.encodeUtf8 k.display :=
  ⟨canonical_run, CacheKey.exists_precedes_display_lt⟩

end FunctionCache

end Switchboard
