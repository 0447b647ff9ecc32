import Mathlib.Data.List.Basic
import Mathlib.Data.List.Nodup
import Switchboard.Proofs.Cache.Operations

/-!
# Calls on a cache side by side

Many callers use one cache. What is atomic is a single step of a call: each operation does all it
does in one step, but for `removeSession`, which first collects the keys of the session and then
takes out one of them after the other, while other calls add, remove, purge and clear.

* `Call`, `Running.step`: the calls, and what the next step of one does to the cache, which entries
  it passes to `on_removed`, and how far it gets. `removeSession_alone`: a `removeSession` that
  nobody interrupts does what `FunctionCache.removeSession` says.
* `SharedCache`: a cache with its callers, and a record that no call looks at. The record is kept by
  whoever compares the cache before a step with the cache after it: an entry that is new gets a
  number, and an entry that has gone has been taken out by the call whose step it was.
* `FunctionCache.lost`: the entries that have gone between two caches; `lost_remove`, `lost_purge`,
  `lost_of_add`: which those are. `size_add_lost`: where entries have only gone, these and what is
  left are as many as there were.
* `Accounts`: what a call reports is what it has taken out. `accounts_step`: its next step keeps
  this.
* `Numbered`: every entry that was ever made is there, or has been taken out once.
* **`removals_accounted`**: so it is at every moment of every interleaving; and what `removeSession`
  leaves of its session is nothing, unless somebody adds to the session in the meantime.
-/

namespace Switchboard

open Std

/-! ### Entries under one key -/

/-- Under one key there is one binding, the one that is found. -/
theorem Assoc.filter_key {κ ν : Type} [Ord κ] [TransOrd κ] [LawfulEqOrd κ]
    [DecidableEq κ] {k : κ} {bs : List (κ × ν)} (hs : Assoc.Sorted bs) :
    (bs.filter fun b => b.1 = k) = (Assoc.get? k bs).toList.map fun v => (k, v) := by
  induction bs with
  | nil => rfl
  | cons b rest ih =>
      obtain ⟨k', v⟩ := b
      obtain ⟨hk', hrest⟩ := List.pairwise_cons.1 hs
      rw [Assoc.get?]
      by_cases hk : k' = k
      · subst hk
        have hnone : Assoc.get? k' rest = none := Assoc.get?_of_lt hk'
        simp [ih hrest, hnone]
      · have hne : compare k k' ≠ .eq := fun heq => hk (LawfulEqCmp.eq_of_compare heq).symm
        simp [ih hrest, hk, hne]

namespace FunctionCache

/-! ### What has gone between two caches -/

/-- The entries of a cache whose keys are not in a later one. -/
def lost (c later : FunctionCache) : List (CacheKey × Entry) :=
  c.entries.entries.filter fun b => !later.contains b.1

variable {c c' : FunctionCache}

/-- What has gone was there under a key that the later cache does not have. -/
theorem mem_lost_iff {b : CacheKey × Entry} :
    b ∈ c.lost c' ↔ c.entries.get? b.1 = some b.2 ∧ c'.contains b.1 = false := by
  unfold lost
  rw [List.mem_filter, Bool.not_eq_true', ← Table.mem_entries_iff]

/-- Where every key stays, nothing has gone. -/
theorem lost_of_contains (h : ∀ k, c.contains k = true → c'.contains k = true) :
    c.lost c' = [] := by
  apply List.eq_nil_iff_forall_not_mem.2
  intro b hb
  obtain ⟨hget, hgone⟩ := mem_lost_iff.1 hb
  rw [h b.1 (contains_iff.2 ⟨_, hget⟩)] at hgone
  cases hgone

/-- A registration adds its key and no other. -/
theorem contains_of_add {now : Nat} {key : CacheKey} {d : ToolDefinition}
    (h : c.add now key d = .ok c') (k : CacheKey) :
    c'.contains k = (decide (k = key) || c.contains k) := by
  rcases add_cases c now key d with ⟨_, _, _, _, hadd⟩ | ⟨e, -, -, hadd⟩
  · rw [hadd] at h
    cases h
  · rw [hadd] at h
    cases h
    show (Table.get? _ k).isSome = _
    rw [Table.get?_insert]
    by_cases hk : k = key <;> simp [hk, contains, Table.contains]

/-- A registration takes nothing out. -/
theorem lost_of_add {now : Nat} {key : CacheKey} {d : ToolDefinition}
    (h : c.add now key d = .ok c') :
    c.lost c' = [] := by
  apply lost_of_contains
  intro k hk
  rw [contains_of_add h, hk, Bool.or_true]

/-- A removal takes its key out and no other. -/
theorem contains_remove (c : FunctionCache) (key k : CacheKey) :
    (c.remove key).2.contains k = (c.contains k && decide (k ≠ key)) := by
  show (Table.get? _ k).isSome = _
  rw [get?_remove]
  by_cases hk : k = key <;> simp [hk, contains, Table.contains]

/-- A removal takes out what it reports. -/
theorem lost_remove (c : FunctionCache) (key : CacheKey) :
    c.lost (c.remove key).2 = (c.remove key).1.toList.map fun e => (key, e) := by
  have hfst : (c.remove key).1 = c.entries.get? key := by
    unfold remove
    cases c.entries.get? key <;> rfl
  have hlost : c.lost (c.remove key).2 = c.entries.entries.filter fun b => b.1 = key := by
    unfold lost
    apply List.filter_congr
    intro b hb
    have hthere : c.contains b.1 = true := contains_iff.2 ⟨b.2, (Table.mem_entries_iff _).1 hb⟩
    simp [contains_remove, hthere]
  rw [hlost, hfst]
  exact Assoc.filter_key c.entries.sorted

/-- **What is left and what has gone are as many as there were**, if what is left was there
before. -/
theorem size_add_lost
    (h : ∀ key e, c'.entries.get? key = some e → c.entries.get? key = some e) :
    c'.size + (c.lost c').length = c.size := by
  have hkept : c'.entries = c.entries.filter fun key _ => c'.contains key := by
    apply Table.ext_get?
    intro key
    rw [Table.get?_filter]
    cases hkey : c'.entries.get? key with
    | none =>
        rw [contains_eq_false_iff.2 hkey]
        cases c.entries.get? key <;> rfl
    | some e =>
        rw [h key e hkey, Option.filter_some, contains_iff.2 ⟨e, hkey⟩]
        rfl
  have hsize : c'.size = (c.entries.entries.filter fun b => c'.contains b.1).length :=
    congrArg Table.size hkept
  rw [hsize]
  exact (List.length_eq_length_filter_add fun b : CacheKey × Entry => c'.contains b.1).symm

/-- A purge takes out as many entries as it reports. -/
theorem lost_purge (c : FunctionCache) (now maxAge : Nat) :
    (c.lost (c.purge now maxAge).2).length = (c.purge now maxAge).1 := by
  have hsize : (c.purge now maxAge).2.size + (c.lost (c.purge now maxAge).2).length = c.size := by
    apply size_add_lost
    intro key e he
    exact (get?_purge_eq_some_iff.1 he).1
  show _ = c.size - (c.purge now maxAge).2.size
  omega

end FunctionCache

namespace Interleaving

/-! ### Calls -/

/-- A call of an operation on a cache. -/
inductive Call where
  /-- Registers a function. -/
  | add (key : CacheKey) (d : ToolDefinition)
  /-- Takes an entry out. -/
  | remove (key : CacheKey)
  /-- Takes the entries of a session out, those with keys of a low rank first. -/
  | removeSession (session : String) (rank : CacheKey → Nat)
  /-- Takes the entries older than `maxAge` out. -/
  | purge (maxAge : Nat)
  /-- Takes every entry out. -/
  | clear

/-- What a call returns. -/
inductive Returned where
  /-- Whether the function has been registered. -/
  | added (result : Except CacheError Unit)
  /-- The entry that has been taken out, if there was one. -/
  | removed (entry : Option Entry)
  /-- How many entries have been taken out. -/
  | counted (count : Nat)
  /-- Nothing. -/
  | cleared

/-- How far a call has got. -/
inductive Progress where
  /-- It has not done anything. -/
  | begun
  /-- It has collected the keys of a session; these are left, and so many entries have been taken
  out. -/
  | removing (keys : List CacheKey) (count : Nat)
  /-- It has returned. -/
  | returned (value : Returned)

/-- A call at work. -/
structure Running where
  /-- What has been called. -/
  call : Call
  /-- How far it has got. -/
  progress : Progress := .begun

/-- Where the removal of a session stands with these keys left: it returns when none are. -/
def Progress.next : List CacheKey → Nat → Progress
  | [], count => returned (.counted count)
  | key :: rest, count => removing (key :: rest) count

/-- A removal of a session that goes on has begun. -/
theorem Progress.next_ne_begun (keys : List CacheKey) (count : Nat) :
    next keys count ≠ .begun := by
  cases keys <;> exact Progress.noConfusion

/-- The keys that are left. -/
def Progress.left : Progress → List CacheKey
  | removing keys _ => keys
  | _ => []

/-- What a removal of a session has before it are the keys that it was told of. -/
@[simp] theorem Progress.left_next (keys : List CacheKey) (count : Nat) :
    (next keys count).left = keys := by
  cases keys <;> rfl

/-- **The next step of a call**, at the time `now`: the cache afterwards, the entries passed to
`on_removed`, and how far the call gets. What a call does by itself between two such steps touches
nothing that is shared. -/
def Running.step (r : Running) (now : Nat) (c : FunctionCache) :
    FunctionCache × List Entry × Progress :=
  match r.call, r.progress with
  | .add key d, .begun =>
    match c.add now key d with
    | .ok c => (c, [], .returned (.added (.ok ())))
    | .error e => (c, [], .returned (.added (.error e)))
  | .remove key, .begun =>
    let (taken, c) := c.remove key
    (c, taken.toList, .returned (.removed taken))
  | .removeSession session rank, .begun =>
    (c, [], .next ((c.sessionKeys session).mergeSort fun k k' => rank k ≤ rank k') 0)
  | .removeSession _ _, .removing (key :: rest) count =>
    let (taken, c) := c.remove key
    (c, taken.toList, .next rest (count + taken.toList.length))
  | .purge maxAge, .begun =>
    let (count, c) := c.purge now maxAge
    (c, [], .returned (.counted count))
  | .clear, .begun => (c.clear, [], .returned .cleared)
  | _, progress => (c, [], progress)

/-- A step puts in no key but one that it registers something under. -/
theorem contains_step {r : Running} {now : Nat} {c : FunctionCache} {key : CacheKey}
    (h : (r.step now c).1.contains key = true) :
    c.contains key = true ∨ ∃ d, r = ⟨.add key d, .begun⟩ := by
  obtain ⟨call, progress⟩ := r
  cases progress with
  | returned value => cases call <;> exact .inl h
  | removing keys count =>
      cases call with
      | removeSession session rank =>
          cases keys with
          | nil => exact .inl h
          | cons first rest =>
              have h : (c.remove first).2.contains key = true := h
              rw [FunctionCache.contains_remove, Bool.and_eq_true] at h
              exact .inl h.1
      | _ => exact .inl h
  | begun =>
      cases call with
      | add key' d =>
          unfold Running.step at h
          dsimp only at h
          cases hadd : c.add now key' d with
          | error e =>
              rw [hadd] at h
              exact .inl h
          | ok c' =>
              rw [hadd] at h
              dsimp only at h
              rw [FunctionCache.contains_of_add hadd, Bool.or_eq_true, decide_eq_true_eq] at h
              rcases h with rfl | hold
              · exact .inr ⟨d, rfl⟩
              · exact .inl hold
      | remove first =>
          have h : (c.remove first).2.contains key = true := h
          rw [FunctionCache.contains_remove, Bool.and_eq_true] at h
          exact .inl h.1
      | removeSession session rank => exact .inl h
      | purge maxAge =>
          obtain ⟨e, he⟩ := FunctionCache.contains_iff.1 h
          have he : (c.purge now maxAge).2.entries.get? key = some e := he
          rw [FunctionCache.get?_purge] at he
          exact .inl (FunctionCache.contains_iff.2 ⟨e, (Option.filter_eq_some_iff.1 he).1⟩)
      | clear => cases h

/-! ### What a call accounts for -/

/-- **What a call has reported is what it has taken out**, by how far it has got: the entries that
it has taken out with their keys, and those that it has passed to `on_removed`. -/
inductive Accounts : Running → List (CacheKey × Entry) → List Entry → Prop where
  | begun {call : Call} : Accounts ⟨call, .begun⟩ [] []
  | added {key : CacheKey} {d : ToolDefinition} {result : Except CacheError Unit} :
      Accounts ⟨.add key d, .returned (.added result)⟩ [] []
  | removed {key : CacheKey} {entry : Option Entry} :
      Accounts ⟨.remove key, .returned (.removed entry)⟩ (entry.toList.map fun e => (key, e))
        entry.toList
  | removing {session : String} {rank : CacheKey → Nat} {keys : List CacheKey}
      {taken : List (CacheKey × Entry)} (hkeys : ∀ k ∈ keys, k.session = session)
      (htaken : ∀ b ∈ taken, b.1.session = session) :
      Accounts ⟨.removeSession session rank, .removing keys taken.length⟩ taken
        (taken.map (·.2))
  | removedSession {session : String} {rank : CacheKey → Nat} {taken : List (CacheKey × Entry)}
      (htaken : ∀ b ∈ taken, b.1.session = session) :
      Accounts ⟨.removeSession session rank, .returned (.counted taken.length)⟩ taken
        (taken.map (·.2))
  | purged {maxAge : Nat} {taken : List (CacheKey × Entry)} :
      Accounts ⟨.purge maxAge, .returned (.counted taken.length)⟩ taken []
  | cleared {taken : List (CacheKey × Entry)} : Accounts ⟨.clear, .returned .cleared⟩ taken []

/-- A removal of a session accounts for the entries that it has taken, if these and the keys before
it are of the session. -/
theorem Accounts.next {session : String} {rank : CacheKey → Nat} {keys : List CacheKey}
    {taken : List (CacheKey × Entry)} (hkeys : ∀ k ∈ keys, k.session = session)
    (htaken : ∀ b ∈ taken, b.1.session = session) :
    Accounts ⟨.removeSession session rank, .next keys taken.length⟩
      taken (taken.map (·.2)) := by
  cases keys with
  | nil => exact .removedSession htaken
  | cons key rest => exact .removing hkeys htaken

/-- **The next step of a call accounts for what goes in it**, whatever has happened to the cache
since the last. -/
theorem accounts_step {r : Running} {taken : List (CacheKey × Entry)} {told : List Entry}
    (h : Accounts r taken told) (now : Nat) (c : FunctionCache) :
    Accounts ⟨r.call, (r.step now c).2.2⟩ (taken ++ c.lost (r.step now c).1)
      (told ++ (r.step now c).2.1) := by
  have hidle : c.lost c = [] := FunctionCache.lost_of_contains fun _ => id
  cases h with
  | @begun call =>
      rw [List.nil_append, List.nil_append]
      cases call with
      | add key d =>
          unfold Running.step
          dsimp only
          cases hadd : c.add now key d with
          | ok c' =>
              dsimp only
              rw [FunctionCache.lost_of_add hadd]
              exact .added
          | error e =>
              dsimp only
              rw [hidle]
              exact .added
      | remove key =>
          show Accounts _ (c.lost (c.remove key).2) (c.remove key).1.toList
          rw [FunctionCache.lost_remove]
          exact .removed
      | removeSession session rank =>
          have hkeys : ∀ k ∈ (c.sessionKeys session).mergeSort fun k k' => rank k ≤ rank k',
              k.session = session := by
            intro k hk
            exact (FunctionCache.mem_sessionKeys.1 (List.mem_mergeSort.1 hk)).2
          show Accounts _ (c.lost c) []
          rw [hidle]
          exact .next hkeys (List.forall_mem_nil _)
      | purge maxAge =>
          show Accounts ⟨.purge maxAge, .returned (.counted (c.purge now maxAge).1)⟩ _ []
          rw [← FunctionCache.lost_purge]
          exact .purged
      | clear => exact .cleared
  | @removing session rank keys taken hkeys htaken =>
      cases keys with
      | nil =>
          show Accounts _ (taken ++ c.lost c) (_ ++ [])
          rw [hidle, List.append_nil, List.append_nil]
          exact .removing hkeys htaken
      | cons key rest =>
          obtain ⟨hkey, hrest⟩ := List.forall_mem_cons.1 hkeys
          have hall : ∀ b ∈ taken ++ c.lost (c.remove key).2, b.1.session = session := by
            intro b hb
            rcases List.mem_append.1 hb with hold | hnew
            · exact htaken b hold
            · rw [FunctionCache.lost_remove] at hnew
              obtain ⟨e, -, rfl⟩ := List.mem_map.1 hnew
              exact hkey
          have hnext : Accounts ⟨.removeSession session rank, _⟩ _ _ := .next hrest hall
          have htold : (taken ++ c.lost (c.remove key).2).map (·.2) =
              taken.map (·.2) ++ (c.remove key).1.toList := by
            rw [List.map_append, FunctionCache.lost_remove, List.map_map]
            simp [Function.comp_def]
          have hcount : (taken ++ c.lost (c.remove key).2).length =
              taken.length + (c.remove key).1.toList.length := by
            rw [List.length_append, FunctionCache.lost_remove, List.length_map]
          rw [htold, hcount] at hnext
          exact hnext
  | added =>
      show Accounts _ ([] ++ c.lost c) ([] ++ [])
      rw [hidle]
      exact .added
  | @removed key entry =>
      show Accounts _ (_ ++ c.lost c) (_ ++ [])
      rw [hidle, List.append_nil, List.append_nil]
      exact .removed
  | removedSession htaken =>
      show Accounts _ (_ ++ c.lost c) (_ ++ [])
      rw [hidle, List.append_nil, List.append_nil]
      exact .removedSession htaken
  | purged =>
      show Accounts _ (_ ++ c.lost c) ([] ++ [])
      rw [hidle, List.append_nil]
      exact .purged
  | cleared => exact .cleared

/-! ### A cache with its callers -/

/-- An entry that has been taken out. -/
structure Removal where
  /-- The call whose step it was. -/
  call : Nat
  /-- The number of the entry. -/
  number : Nat
  /-- Its key. -/
  key : CacheKey
  /-- What it was. -/
  entry : Entry

/-- A cache with its callers, and a record of what has become of it. -/
structure SharedCache where
  /-- The cache. -/
  cache : FunctionCache
  /-- The time. -/
  now : Nat
  /-- The calls, in the order in which they have begun. -/
  calls : List Running := []
  /-- The keys of all entries that were ever made. The place of an entry in this list is its
  number. -/
  made : List CacheKey := []
  /-- The number of the entry that was last made under a key. -/
  number : CacheKey → Nat := fun _ => 0
  /-- The entries that have been taken out, in order. -/
  removals : List Removal := []
  /-- The entries that calls have passed to `on_removed`, in order. -/
  told : List (Nat × Entry) := []

namespace SharedCache

variable {w : SharedCache} {i : Nat}

/-- Puts another cache in the place of the cache, in a step of a call, and records what is new and
what has gone. -/
def replace (w : SharedCache) (i : Nat) (c : FunctionCache) : SharedCache :=
  let come := c.entries.keys.filter fun k => !w.cache.contains k
  { w with
    cache := c
    made := w.made ++ come
    number := fun k => if k ∈ come then w.made.length + come.idxOf k else w.number k
    removals := w.removals ++ (w.cache.lost c).map fun b => ⟨i, w.number b.1, b.1, b.2⟩ }

/-- A call makes its next step. -/
def go (w : SharedCache) (i : Nat) : SharedCache :=
  match w.calls[i]? with
  | none => w
  | some r =>
    let (c, entries, progress) := r.step w.now w.cache
    { w.replace i c with
      calls := w.calls.set i { r with progress }
      told := w.told ++ entries.map fun e => (i, e) }

/-- One thing that can happen. -/
inductive Move where
  /-- A call begins. -/
  | begin (call : Call)
  /-- A call makes its next step. -/
  | go (i : Nat)
  /-- Time passes. -/
  | wait (duration : Nat)

/-- What a move leads to. -/
def move (w : SharedCache) : Move → SharedCache
  | .begin call => { w with calls := w.calls ++ [⟨call, .begun⟩] }
  | .go i => w.go i
  | .wait duration => { w with now := w.now + duration }

/-- What an interleaving leads to. -/
def run (w : SharedCache) (moves : List Move) : SharedCache := moves.foldl move w

/-- A new cache without callers. -/
def fresh (kind : CacheKind) (start : Nat) : SharedCache := { cache := .new kind, now := start }

/-- The entries that a call has taken out, with their keys. -/
def takenBy (w : SharedCache) (i : Nat) : List (CacheKey × Entry) :=
  (w.removals.filter fun r => r.call = i).map fun r => (r.key, r.entry)

/-- The entries that a call has passed to `on_removed`. -/
def toldBy (w : SharedCache) (i : Nat) : List Entry := (w.told.filter fun t => t.1 = i).map (·.2)

/-! ### Every entry is there or has been taken out once -/

/-- **Every entry that was ever made is there, or has been taken out once.** -/
structure Numbered (w : SharedCache) : Prop where
  /-- What is there has been made. -/
  present : ∀ key, w.cache.contains key = true → w.made[w.number key]? = some key
  /-- What has been taken out has been made. -/
  removal : ∀ r ∈ w.removals, w.made[r.number]? = some r.key
  /-- What has been made is there and has never been taken out, or is not there and has been taken
  out once. -/
  once : ∀ n key, w.made[n]? = some key → (w.removals.countP fun r => r.number = n) =
    if w.cache.contains key = true ∧ w.number key = n then 0 else 1

/-- In a new cache no entry has been made. -/
theorem numbered_fresh (kind : CacheKind) (start : Nat) : (fresh kind start).Numbered := by
  refine ⟨fun key hkey => ?_, fun r hr => ?_, fun n key hkey => ?_⟩
  · cases hkey
  · cases hr
  · cases hkey

/-- An entry that has been made is taken out in a step if it is there before and not afterwards. -/
theorem Numbered.count_lost (h : w.Numbered) (c : FunctionCache) {n : Nat} {key : CacheKey}
    (hmade : w.made[n]? = some key) :
    (((w.cache.lost c).map fun b => (⟨i, w.number b.1, b.1, b.2⟩ : Removal)).countP fun r =>
        r.number = n) =
      if w.cache.contains key = true ∧ w.number key = n ∧ c.contains key = false then 1
      else 0 := by
  -- the number determines the key
  have hkeys : (w.cache.lost c).countP (fun b => decide (w.number b.1 = n)) =
      (w.cache.lost c).countP fun b => decide (b.1 = key ∧ w.number key = n) := by
    apply List.countP_congr
    intro b hb
    have hthere : w.made[w.number b.1]? = some b.1 :=
      h.present b.1 (FunctionCache.contains_iff.2 ⟨_, (FunctionCache.mem_lost_iff.1 hb).1⟩)
    simp only [decide_eq_true_eq]
    constructor
    · intro hn
      rw [hn, hmade] at hthere
      obtain rfl := Option.some.inj hthere
      exact ⟨rfl, hn⟩
    · rintro ⟨hkey, hn⟩
      rw [hkey, hn]
  have hfilter : ((w.cache.entries.entries.filter fun b => !c.contains b.1).filter fun b =>
        decide (b.1 = key)) =
      (w.cache.entries.entries.filter fun b => decide (b.1 = key)).filter fun _ =>
        !c.contains key := by
    rw [List.filter_filter, List.filter_filter]
    apply List.filter_congr
    intro b _
    by_cases hb : b.1 = key <;> simp [hb]
  rw [List.countP_map]
  show (w.cache.lost c).countP (fun b => decide (w.number b.1 = n)) = _
  rw [hkeys]
  by_cases hn : w.number key = n
  · simp only [hn, and_true, true_and]
    rw [List.countP_eq_length_filter]
    unfold FunctionCache.lost
    rw [hfilter, Assoc.filter_key w.cache.entries.sorted]
    show ((((w.cache.entries.get? key).toList.map fun v => (key, v))).filter fun _ =>
      !c.contains key).length = _
    unfold FunctionCache.contains Table.contains
    cases w.cache.entries.get? key <;> cases (c.entries.get? key).isSome <;> rfl
  · simp [hn]

/-- What has been made stays made. -/
theorem getElem?_made_replace {n : Nat} {key : CacheKey} (h : w.made[n]? = some key)
    (c : FunctionCache) :
    (w.replace i c).made[n]? = some key := by
  obtain ⟨hn, -⟩ := List.getElem?_eq_some_iff.1 h
  show (w.made ++ _)[n]? = some key
  rw [List.getElem?_append_left hn, h]

/-- **A step numbers what is new and records what has gone**, whatever it does. -/
theorem Numbered.replace (h : w.Numbered) (i : Nat) (c : FunctionCache) :
    (w.replace i c).Numbered := by
  generalize hcome : (c.entries.keys.filter fun k => !w.cache.contains k) = come
  have hmem : ∀ k, k ∈ come ↔ c.contains k = true ∧ w.cache.contains k = false := by
    intro k
    rw [← hcome, List.mem_filter, Table.mem_keys_iff, ← FunctionCache.contains_iff,
      Bool.not_eq_true']
  have hnodup : come.Nodup := hcome ▸ c.entries.nodup_keys.filter _
  have hnumber : ∀ k, (w.replace i c).number k =
      if k ∈ come then w.made.length + come.idxOf k else w.number k := by
    intro k
    rw [← hcome]
    rfl
  have hmade : (w.replace i c).made = w.made ++ come := by
    rw [← hcome]
    rfl
  have hremovals : (w.replace i c).removals =
      w.removals ++ (w.cache.lost c).map fun b => ⟨i, w.number b.1, b.1, b.2⟩ := rfl
  constructor
  case present =>
    intro key hkey
    have hkey : c.contains key = true := hkey
    rw [hnumber]
    by_cases hnew : key ∈ come
    · rw [if_pos hnew, hmade, List.getElem?_append_right (Nat.le_add_right _ _),
        Nat.add_sub_cancel_left]
      exact List.getElem?_idxOf hnew
    · have hold : w.cache.contains key = true := by
        by_contra hno
        exact hnew ((hmem key).2 ⟨hkey, Bool.eq_false_iff.2 hno⟩)
      rw [if_neg hnew]
      exact getElem?_made_replace (h.present key hold) c
  case removal =>
    intro r hr
    rw [hremovals] at hr
    rcases List.mem_append.1 hr with hold | hgone
    · exact getElem?_made_replace (h.removal r hold) c
    · obtain ⟨b, hb, rfl⟩ := List.mem_map.1 hgone
      have hthere := FunctionCache.contains_iff.2 ⟨_, (FunctionCache.mem_lost_iff.1 hb).1⟩
      exact getElem?_made_replace (h.present b.1 hthere) c
  case once =>
    intro n key hkey
    rw [hremovals, List.countP_append, hnumber]
    by_cases hn : n < w.made.length
    · -- an entry that was made before the step
      rw [hmade, List.getElem?_append_left hn] at hkey
      rw [h.once n key hkey, h.count_lost c hkey]
      have hlate : w.made.length + come.idxOf key ≠ n := by omega
      show _ = if c.contains key = true ∧ _ then 0 else 1
      by_cases hbefore : w.cache.contains key = true <;> by_cases hafter : c.contains key = true <;>
        by_cases hsame : w.number key = n <;> simp [hmem, hbefore, hafter, hsame, hlate]
    · -- an entry that is made in the step
      have hnew : come[n - w.made.length]? = some key := by
        rwa [hmade, List.getElem?_append_right (by omega)] at hkey
      obtain ⟨hlt, hget⟩ := List.getElem?_eq_some_iff.1 hnew
      have hcomes : key ∈ come := hget ▸ List.getElem_mem hlt
      have hplace : w.made.length + come.idxOf key = n := by
        rw [← hget, hnodup.idxOf_getElem]
        omega
      have hfresh : ∀ m k, w.made[m]? = some k → m ≠ n := by
        intro m k hm
        obtain ⟨hlt, -⟩ := List.getElem?_eq_some_iff.1 hm
        omega
      have hbefore : (w.removals.countP fun r => r.number = n) = 0 := by
        rw [List.countP_eq_zero]
        intro r hr
        simpa using hfresh _ _ (h.removal r hr)
      have hgone : (((w.cache.lost c).map fun b =>
          (⟨i, w.number b.1, b.1, b.2⟩ : Removal)).countP fun r => r.number = n) = 0 := by
        rw [List.countP_map, List.countP_eq_zero]
        intro b hb
        have hthere := FunctionCache.contains_iff.2 ⟨_, (FunctionCache.mem_lost_iff.1 hb).1⟩
        simpa using hfresh _ _ (h.present b.1 hthere)
      rw [hbefore, hgone, if_pos hcomes, if_pos ⟨((hmem key).1 hcomes).1, hplace⟩]

/-- Callers and time do not matter to this. -/
theorem Numbered.frame (h : w.Numbered) (calls : List Running) (told : List (Nat × Entry))
    (now : Nat) :
    ({ w with calls, told, now } : SharedCache).Numbered :=
  ⟨h.present, h.removal, h.once⟩

/-! ### Every call accounts for what it has taken out -/

/-- **What calls have reported is what they have taken out**, and nobody else has taken out or been
told anything. -/
structure Accounted (w : SharedCache) : Prop where
  numbered : w.Numbered
  calls : ∀ i r, w.calls[i]? = some r → Accounts r (w.takenBy i) (w.toldBy i)
  removals : ∀ r ∈ w.removals, r.call < w.calls.length
  told : ∀ t ∈ w.told, t.1 < w.calls.length

/-- In a new cache no call has reported anything. -/
theorem accounted_fresh (kind : CacheKind) (start : Nat) : (fresh kind start).Accounted := by
  refine ⟨numbered_fresh kind start, fun i r hr => ?_, fun r hr => ?_, fun t ht => ?_⟩
  · cases hr
  · cases hr
  · cases ht

/-- A call that begins has reported nothing yet. -/
theorem Accounted.begin (h : w.Accounted) (call : Call) : (w.move (.begin call)).Accounted := by
  have hlength : (w.move (.begin call)).calls.length = w.calls.length + 1 := List.length_append
  refine ⟨h.numbered.frame _ _ _, fun i r hr => ?_, fun r hr => ?_, fun t ht => ?_⟩
  · have hr : (w.calls ++ [⟨call, .begun⟩])[i]? = some r := hr
    by_cases hi : i < w.calls.length
    · rw [List.getElem?_append_left hi] at hr
      exact h.calls i r hr
    · rw [List.getElem?_append_right (by omega)] at hr
      obtain ⟨hlast, hcall⟩ := List.getElem?_eq_some_iff.1 hr
      have htaken : w.takenBy i = [] := by
        unfold takenBy
        rw [List.map_eq_nil_iff, List.filter_eq_nil_iff]
        intro r hr
        have := h.removals r hr
        simp only [decide_eq_true_eq]
        omega
      have htold : w.toldBy i = [] := by
        unfold toldBy
        rw [List.map_eq_nil_iff, List.filter_eq_nil_iff]
        intro t ht
        have := h.told t ht
        simp only [decide_eq_true_eq]
        omega
      have hbegun : r = ⟨call, .begun⟩ := by
        rw [← hcall]
        exact List.getElem_singleton _
      show Accounts r (w.takenBy i) (w.toldBy i)
      rw [htaken, htold, hbegun]
      exact .begun
  · have := h.removals r hr
    omega
  · have := h.told t ht
    omega

/-- What the call `i` adds to a record is its own there. -/
theorem map_filter_append {α β : Type} {f : β → α} {caller : α → Nat} {g : α → β}
    (hcaller : ∀ b, caller (f b) = i) (hg : ∀ b, g (f b) = b) (old : List α)
    (new : List β) (j : Nat) :
    ((old ++ new.map f).filter fun a => caller a = j).map g =
      (old.filter fun a => caller a = j).map g ++ if j = i then new else [] := by
  have hid : g ∘ f = id := funext hg
  rw [List.filter_append, List.map_append]
  congr 1
  by_cases hj : j = i
  · rw [if_pos hj, List.filter_eq_self.2]
    · simp [hid]
    · simp [hcaller, hj]
  · simp [hj, hcaller, Ne.symm hj]

/-- A step adds to what its own call has taken out and been told, and to nothing else. -/
theorem takenBy_go {r : Running} (hr : w.calls[i]? = some r) (j : Nat) :
    (w.go i).takenBy j =
      w.takenBy j ++ if j = i then w.cache.lost (r.step w.now w.cache).1 else [] := by
  unfold go takenBy
  rw [hr]
  apply map_filter_append
  · intro b
    rfl
  · intro b
    rfl

/-- A step of a call adds what it passes on to what this call has passed on, and nothing to the
others. -/
theorem toldBy_go {r : Running} (hr : w.calls[i]? = some r) (j : Nat) :
    (w.go i).toldBy j = w.toldBy j ++ if j = i then (r.step w.now w.cache).2.1 else [] := by
  unfold go toldBy
  rw [hr]
  apply map_filter_append
  · intro b
    rfl
  · intro b
    rfl

/-- A step of a running call does its next step to the cache, and keeps the record. -/
theorem go_of_some {r : Running} (hr : w.calls[i]? = some r) :
    w.go i = { w.replace i (r.step w.now w.cache).1 with
      calls := w.calls.set i ⟨r.call, (r.step w.now w.cache).2.2⟩
      told := w.told ++ (r.step w.now w.cache).2.1.map fun e => (i, e) } := by
  unfold go
  rw [hr]

/-- There is no step of a call that is not there. -/
theorem go_of_none (hr : w.calls[i]? = none) : w.go i = w := by
  unfold go
  rw [hr]

/-- A step of a call keeps the accounts of all calls. -/
theorem Accounted.go (h : w.Accounted) (i : Nat) : (w.go i).Accounted := by
  cases hr : w.calls[i]? with
  | none =>
      rw [go_of_none hr]
      exact h
  | some r =>
      obtain ⟨hi, -⟩ := List.getElem?_eq_some_iff.1 hr
      have hcalls : (w.go i).calls = w.calls.set i ⟨r.call, (r.step w.now w.cache).2.2⟩ := by
        rw [go_of_some hr]
      have hlength : (w.go i).calls.length = w.calls.length := by rw [hcalls, List.length_set]
      refine ⟨?_, fun j r' hr' => ?_, fun r' hr' => ?_, fun t ht => ?_⟩
      · rw [go_of_some hr]
        exact (h.numbered.replace i (r.step w.now w.cache).1).frame _ _ w.now
      · rw [takenBy_go hr, toldBy_go hr]
        rw [hcalls] at hr'
        by_cases hj : j = i
        · subst hj
          rw [List.getElem?_set_self hi] at hr'
          rw [← Option.some.inj hr', if_pos rfl, if_pos rfl]
          exact accounts_step (h.calls j r hr) w.now w.cache
        · rw [List.getElem?_set_ne (Ne.symm hj)] at hr'
          rw [if_neg hj, if_neg hj, List.append_nil, List.append_nil]
          exact h.calls j r' hr'
      · rw [go_of_some hr] at hr'
        rw [hlength]
        rcases List.mem_append.1 hr' with hold | hnew
        · exact h.removals r' hold
        · obtain ⟨b, -, rfl⟩ := List.mem_map.1 hnew
          exact hi
      · rw [go_of_some hr] at ht
        rw [hlength]
        rcases List.mem_append.1 ht with hold | hnew
        · exact h.told t hold
        · obtain ⟨e, -, rfl⟩ := List.mem_map.1 hnew
          exact hi

/-- **Every move keeps the accounts.** -/
theorem Accounted.move (h : w.Accounted) (m : Move) : (w.move m).Accounted := by
  cases m with
  | begin call => exact h.begin call
  | go i => exact h.go i
  | wait duration => exact ⟨h.numbered.frame _ _ _, h.calls, h.removals, h.told⟩

/-- **Every interleaving keeps the accounts**: by induction on its moves. -/
theorem Accounted.run (h : w.Accounted) (moves : List Move) : (w.run moves).Accounted := by
  induction moves generalizing w with
  | nil => exact h
  | cons m rest ih => exact ih (h.move m)

/-! ### A session is taken out as it was collected -/

/-- The move is the step of a call that registers something for the session. -/
def Registers (session : String) (w : SharedCache) (m : Move) : Prop :=
  ∃ i key d, m = .go i ∧ w.calls[i]? = some ⟨.add key d, .begun⟩ ∧ key.session = session

/-- Nothing is registered for the session by any of the moves. -/
def Quiet (session : String) : SharedCache → List Move → Prop
  | _, [] => True
  | w, m :: rest => ¬ w.Registers session m ∧ (w.move m).Quiet session rest

/-- **What there is of the session is left for the call to take out**, since it has collected the
keys. -/
def Covers (session : String) (i : Nat) (w : SharedCache) : Prop :=
  ∃ rank progress, w.calls[i]? = some ⟨.removeSession session rank, progress⟩ ∧
    progress ≠ .begun ∧
    ∀ key, w.cache.contains key = true → key.session = session → key ∈ progress.left

/-- Once the call has collected the keys, they are left. -/
theorem covers_go {session : String} {rank : CacheKey → Nat}
    (hcall : w.calls[i]? = some ⟨.removeSession session rank, .begun⟩) :
    (w.go i).Covers session i := by
  obtain ⟨hi, -⟩ := List.getElem?_eq_some_iff.1 hcall
  rw [go_of_some hcall]
  refine ⟨rank, _, List.getElem?_set_self hi, Progress.next_ne_begun _ _,
    fun key hkey hsession => ?_⟩
  have hkey : w.cache.contains key = true := hkey
  have hmem : key ∈ w.cache.sessionKeys session :=
    FunctionCache.mem_sessionKeys.2 ⟨FunctionCache.contains_iff.1 hkey, hsession⟩
  show key ∈ (Progress.next _ 0).left
  rw [Progress.left_next]
  exact List.mem_mergeSort.2 hmem

/-- **Every move but a registration for the session keeps it so**: a key that has been taken out, by
whomever, need not be left. -/
theorem Covers.move {session : String} {m : Move} (h : w.Covers session i)
    (hquiet : ¬ w.Registers session m) :
    (w.move m).Covers session i := by
  obtain ⟨rank, progress, hcall, hbegun, hleft⟩ := h
  obtain ⟨hi, -⟩ := List.getElem?_eq_some_iff.1 hcall
  cases m with
  | wait duration => exact ⟨rank, progress, hcall, hbegun, hleft⟩
  | begin call =>
      refine ⟨rank, progress, ?_, hbegun, hleft⟩
      show (w.calls ++ _)[i]? = _
      rw [List.getElem?_append_left hi, hcall]
  | go j =>
      show (w.go j).Covers session i
      cases hr : w.calls[j]? with
      | none =>
          rw [go_of_none hr]
          exact ⟨rank, progress, hcall, hbegun, hleft⟩
      | some r =>
          rw [go_of_some hr]
          by_cases hj : j = i
          · -- the call itself takes out the first key that is left
            subst hj
            obtain rfl := Option.some.inj (hr.symm.trans hcall)
            refine ⟨rank, _, List.getElem?_set_self hi, ?_, fun key hkey hsession => ?_⟩
            · cases progress with
              | begun => exact absurd rfl hbegun
              | returned value => exact hbegun
              | removing keys count =>
                  cases keys with
                  | nil => exact hbegun
                  | cons first rest => exact Progress.next_ne_begun _ _
            · cases progress with
              | begun => exact absurd rfl hbegun
              | returned value => exact hleft key hkey hsession
              | removing keys count =>
                  cases keys with
                  | nil => exact hleft key hkey hsession
                  | cons first rest =>
                      have hkey : (w.cache.remove first).2.contains key = true := hkey
                      rw [FunctionCache.contains_remove, Bool.and_eq_true,
                        decide_eq_true_eq] at hkey
                      have hmem : key ∈ first :: rest := hleft key hkey.1 hsession
                      show key ∈ (Progress.next rest _).left
                      rw [Progress.left_next]
                      exact (List.mem_cons.1 hmem).resolve_left hkey.2
          · -- another call may have taken keys out; it has put in none of the session
            refine ⟨rank, progress, ?_, hbegun, fun key hkey hsession => ?_⟩
            · show (w.calls.set j _)[i]? = _
              rw [List.getElem?_set_ne hj, hcall]
            · rcases contains_step hkey with hold | ⟨d, rfl⟩
              · exact hleft key hold hsession
              · exact absurd ⟨j, key, d, rfl, hr, hsession⟩ hquiet

/-- A removal covers its session throughout moves in which nobody adds to it. -/
theorem Covers.run {session : String} {moves : List Move} (h : w.Covers session i)
    (hquiet : w.Quiet session moves) :
    (w.run moves).Covers session i := by
  induction moves generalizing w with
  | nil => exact h
  | cons m rest ih => exact ih (h.move hquiet.1) hquiet.2

/-- **Nothing is left of a session** when the call that takes it out returns, if nothing has been
registered for it since the keys were collected. -/
theorem vacant_of_returned {session : String} {rank : CacheKey → Nat} {moves : List Move}
    {value : Returned} (hcall : w.calls[i]? = some ⟨.removeSession session rank, .begun⟩)
    (hquiet : (w.go i).Quiet session moves)
    (hreturned : ((w.go i).run moves).calls[i]? =
      some ⟨.removeSession session rank, .returned value⟩)
    (key : CacheKey) (hkey : ((w.go i).run moves).cache.contains key = true) :
    key.session ≠ session := by
  intro hsession
  obtain ⟨rank', progress, hcall', -, hleft⟩ := (covers_go hcall).run hquiet
  have hprogress : progress = .returned value := by
    have hsame := Option.some.inj (hcall'.symm.trans hreturned)
    exact congrArg Running.progress hsame
  have hmem := hleft key hkey hsession
  rw [hprogress] at hmem
  cases hmem

/-! ### A session that nobody else touches -/

/-- The removals that are left, made one after the other, are those of `removeAll`. -/
theorem run_removing {session : String} {rank : CacheKey → Nat} {keys : List CacheKey}
    {count : Nat} (hcall : w.calls[i]? = some ⟨.removeSession session rank, .next keys count⟩) :
    (w.run (List.replicate keys.length (.go i))).cache = (w.cache.removeAll keys).2 ∧
      (w.run (List.replicate keys.length (.go i))).told =
        w.told ++ (w.cache.removeAll keys).1.map (fun e => (i, e)) ∧
      (w.run (List.replicate keys.length (.go i))).calls[i]? =
        some ⟨.removeSession session rank,
          .returned (.counted (count + (w.cache.removeAll keys).1.length))⟩ := by
  obtain ⟨hi, -⟩ := List.getElem?_eq_some_iff.1 hcall
  induction keys generalizing w count with
  | nil => exact ⟨rfl, (List.append_nil _).symm, hcall⟩
  | cons key rest ih =>
      have hgo := go_of_some hcall
      have hcache : (w.go i).cache = (w.cache.remove key).2 := by rw [hgo]; rfl
      have htold : (w.go i).told = w.told ++ (w.cache.remove key).1.toList.map fun e => (i, e) := by
        rw [hgo]; rfl
      have hnext : (w.go i).calls[i]? = some ⟨.removeSession session rank,
          .next rest (count + (w.cache.remove key).1.toList.length)⟩ := by
        rw [hgo]
        exact List.getElem?_set_self hi
      have hlength : i < (w.go i).calls.length := (List.getElem?_eq_some_iff.1 hnext).1
      obtain ⟨hcache', htold', hcalls'⟩ := ih hnext hlength
      have hall : w.cache.removeAll (key :: rest) =
          ((w.cache.remove key).1.toList ++ ((w.cache.remove key).2.removeAll rest).1,
            ((w.cache.remove key).2.removeAll rest).2) := rfl
      have hrun : w.run (List.replicate (key :: rest).length (.go i)) =
          (w.go i).run (List.replicate rest.length (.go i)) := rfl
      rw [hrun, hcache', htold', hcalls', htold, hcache, hall]
      refine ⟨rfl, ?_, ?_⟩
      · rw [List.map_append, List.append_assoc]
      · rw [List.length_append, Nat.add_assoc]

/-- **Without interruption the steps of `removeSession` are the operation.** -/
theorem removeSession_alone {session : String}
    (hcall : w.calls[i]? = some ⟨.removeSession session fun _ => 0, .begun⟩) :
    ∃ n, (w.run (List.replicate n (.go i))).cache = (w.cache.removeSession session).2 ∧
      (w.run (List.replicate n (.go i))).told =
        w.told ++ (w.cache.removeSession session).1.map (fun e => (i, e)) ∧
      (w.run (List.replicate n (.go i))).calls[i]? =
        some ⟨.removeSession session fun _ => 0,
          .returned (.counted (w.cache.removeSession session).1.length)⟩ := by
  obtain ⟨hi, -⟩ := List.getElem?_eq_some_iff.1 hcall
  have hsorted : (w.cache.sessionKeys session).mergeSort (fun _ _ => decide (0 ≤ 0)) =
      w.cache.sessionKeys session := by
    apply List.mergeSort_of_pairwise
    exact List.pairwise_of_forall fun _ _ => rfl
  have hgo := go_of_some hcall
  have hcache : (w.go i).cache = w.cache := by rw [hgo]; rfl
  have htold : (w.go i).told = w.told := by
    rw [hgo]
    exact List.append_nil _
  have hnext : (w.go i).calls[i]? = some ⟨.removeSession session fun _ => 0,
      .next (w.cache.sessionKeys session) 0⟩ := by
    rw [hgo, ← hsorted]
    exact List.getElem?_set_self hi
  obtain ⟨hcache', htold', hcalls'⟩ := run_removing hnext
  rw [hcache] at hcache' htold' hcalls'
  rw [htold] at htold'
  rw [Nat.zero_add] at hcalls'
  exact ⟨(w.cache.sessionKeys session).length + 1, hcache', htold', hcalls'⟩

/-! ### Interleavings -/

/-- **Removals are accounted for** in every interleaving of calls on a new cache. -/
structure RemovalsAccounted (kind : CacheKind) (start : Nat) : Prop where
  /-- At every moment every entry that was ever made is there or has been taken out once, and every
  call has reported what it has taken out. -/
  accounted : ∀ moves, ((fresh kind start).run moves).Accounted
  /-- When a call that takes a session out returns, nothing is left of the session, if nothing has
  been registered for it since the keys were collected. -/
  vacant : ∀ moves i session rank during value,
    ((fresh kind start).run moves).calls[i]? = some ⟨.removeSession session rank, .begun⟩ →
    (((fresh kind start).run moves).go i).Quiet session during →
    ((((fresh kind start).run moves).go i).run during).calls[i]? =
        some ⟨.removeSession session rank, .returned value⟩ →
      ∀ key, ((((fresh kind start).run moves).go i).run during).cache.contains key = true →
        key.session ≠ session

/-- **Removals are accounted for**, however calls are interleaved and however many there are. -/
theorem removals_accounted (kind : CacheKind) (start : Nat) : RemovalsAccounted kind start := by
  constructor
  case accounted =>
    intro moves
    exact (accounted_fresh kind start).run moves
  case vacant =>
    intro moves i session rank during value hcall hquiet hreturned key hkey
    exact vacant_of_returned hcall hquiet hreturned key hkey

/-- A key that is collected, taken out by another call and registered again: the call that has
collected it takes out the second entry. -/
example :
    let key : CacheKey := ⟨"s", "a"⟩
    let d : ToolDefinition :=
      ⟨"Clock", "now", "now", "", [], false, fun _ => .returned "noon", none, rfl, .nil⟩
    ((fresh .toolCall 0).run [.begin (.add key d), .go 0,
        .begin (.removeSession "s" fun _ => 0), .go 1,
        .begin (.remove key), .go 2, .begin (.add key d), .go 3, .go 1]).removals.map
      (fun r => (r.call, r.number)) = [(2, 0), (1, 1)] := by
  decide +kernel

end SharedCache

end Interleaving

end Switchboard
