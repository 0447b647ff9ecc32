import Mathlib.Algebra.BigOperators.Group.List.Basic
import Mathlib.Algebra.GroupWithZero.Nat
import Switchboard.Proofs.Cache.Interleaving
import Switchboard.Proofs.Cache.Sessions
import Switchboard.Proofs.Service.Run

/-!
# How purges compose

A purge looks at each entry for itself, so it does not matter in which order entries leave, nor how
a purge is divided.

* `FunctionCache.size_purge`, `FunctionCache.size_removeSession`: what an operation leaves and what
  it reports are as many entries as there were. All laws about counts come from this.
* `FunctionCache.purge_purge`, `FunctionCache.removeSession_purge`: what two purges leave, and a
  purge and the end of a session.
* `FunctionCache.PurgesCompose`: the laws of the purges of one cache.
* `State.PurgesUnite`: a sweep is the purges of all caches. `State.purgeAll_purgeAll`: hence sweeps
  merge as purges do.
* **`purges_compose`**: both hold of every cache, at every time, and of every service.
-/

namespace Switchboard

namespace FunctionCache

variable {c : FunctionCache}

/-! ## Counting what has gone -/

/-- No key has gone twice. -/
theorem nodup_lost (c c' : FunctionCache) : ((c.lost c').map Prod.fst).Nodup :=
  c.entries.nodup_keys.sublist (List.filter_sublist.map _)

/-- What a purge leaves and what it counts are as many entries as there were. -/
theorem size_purge (c : FunctionCache) (now maxAge : Nat) :
    (c.purge now maxAge).2.size + (c.purge now maxAge).1 = c.size := by
  rw [← lost_purge]
  apply size_add_lost
  intro key e he
  exact (get?_purge_eq_some_iff.1 he).1

/-- What a removal leaves and what it takes out are as many entries as there were. -/
theorem size_remove (c : FunctionCache) (key : CacheKey) :
    (c.remove key).2.size + (c.remove key).1.toList.length = c.size := by
  have hreported : (c.lost (c.remove key).2).length = (c.remove key).1.toList.length := by
    rw [lost_remove, List.length_map]
  rw [← hreported]
  apply size_add_lost
  intro key' e he
  rw [get?_remove, Option.ite_none_left_eq_some] at he
  exact he.2

/-- What removals leave and what they take out are as many entries as there were. -/
theorem size_removeAll (c : FunctionCache) (keys : List CacheKey) :
    (c.removeAll keys).2.size + (c.removeAll keys).1.length = c.size := by
  -- by induction on the keys: each is taken out of what the ones before it have left
  induction keys generalizing c with
  | nil => rfl
  | cons key rest ih =>
      have hleft : (c.removeAll (key :: rest)).2 = ((c.remove key).2.removeAll rest).2 := rfl
      have htaken : (c.removeAll (key :: rest)).1 =
          (c.remove key).1.toList ++ ((c.remove key).2.removeAll rest).1 := rfl
      rw [hleft, htaken, List.length_append, ← size_remove c key, ← ih (c.remove key).2]
      omega

/-- What the end of a session leaves and what it takes out are as many entries as there were. -/
theorem size_removeSession (c : FunctionCache) (session : String) :
    (c.removeSession session).2.size + (c.removeSession session).1.length = c.size :=
  size_removeAll c (c.sessionKeys session)

/-! ## What two operations leave -/

/-- Two purges at one time leave what one with the lesser age leaves. -/
theorem purge_purge (c : FunctionCache) (now a b : Nat) :
    ((c.purge now a).2.purge now b).2 = (c.purge now (min a b)).2 := by
  refine eq_of_get? rfl rfl fun key => ?_
  rw [get?_purge, get?_purge, get?_purge, Option.filter_filter]
  congr 1
  funext e
  rw [← Bool.decide_and]
  exact decide_eq_decide.2 Nat.le_min.symm

/-- A purge and the end of a session leave the same, whichever comes first. -/
theorem removeSession_purge (c : FunctionCache) (now maxAge : Nat) (session : String) :
    ((c.purge now maxAge).2.removeSession session).2 =
      ((c.removeSession session).2.purge now maxAge).2 := by
  refine eq_of_get? (by simp) (by simp) fun key => ?_
  rw [get?_removeSession, get?_purge, get?_purge, get?_removeSession]
  split <;> rfl

/-- A purge loses the entries that are too old. -/
theorem mem_lost_purge_iff {now maxAge : Nat} {key : CacheKey} {e : Entry} :
    (key, e) ∈ c.lost (c.purge now maxAge).2 ↔
      c.entries.get? key = some e ∧ maxAge < e.age now := by
  rw [mem_lost_iff, contains_eq_false_iff, get?_purge]
  apply and_congr_right
  intro he
  simp [he, Option.filter_some]

/-! ## Purges of one cache -/

/-- **How purges of a cache compose** that are made at the time `now`. -/
structure PurgesCompose (now : Nat) (c : FunctionCache) : Prop where
  /-- A purge leaves the entries that are not older than the greatest age, as they are. -/
  kept : ∀ maxAge key e, (c.purge now maxAge).2.get key = .ok e ↔
    c.get key = .ok e ∧ e.age now ≤ maxAge
  /-- It takes those out that are older. -/
  taken : ∀ maxAge key e, (key, e) ∈ c.lost (c.purge now maxAge).2 ↔
    c.get key = .ok e ∧ maxAge < e.age now
  /-- It counts them, each once. -/
  counted : ∀ maxAge, (c.purge now maxAge).1 = (c.lost (c.purge now maxAge).2).length ∧
    ((c.lost (c.purge now maxAge).2).map Prod.fst).Nodup
  /-- Another one at the same time makes of it a purge with the lesser of the two ages, and counts
  what the first one has left of it. -/
  merged : ∀ a b, ((c.purge now a).2.purge now b).2 = (c.purge now (min a b)).2 ∧
    (c.purge now a).1 + ((c.purge now a).2.purge now b).1 = (c.purge now (min a b)).1
  /-- With a lesser age it takes out no fewer. -/
  antitone : ∀ a b, a ≤ b → c.lost (c.purge now b).2 ⊆ c.lost (c.purge now a).2
  /-- The same one again takes nothing out. -/
  repeated : ∀ maxAge, (c.purge now maxAge).2.purge now maxAge = (0, (c.purge now maxAge).2)
  /-- The end of a session can come before or after, and between them they take out the same
  number. -/
  swapped : ∀ maxAge session,
    ((c.purge now maxAge).2.removeSession session).2 =
      ((c.removeSession session).2.purge now maxAge).2 ∧
      (c.purge now maxAge).1 + ((c.purge now maxAge).2.removeSession session).1.length =
        (c.removeSession session).1.length + ((c.removeSession session).2.purge now maxAge).1

/-- The purges of a cache compose at every time. -/
theorem purgesCompose (now : Nat) (c : FunctionCache) : c.PurgesCompose now := by
  have hmerged : ∀ a b, ((c.purge now a).2.purge now b).2 = (c.purge now (min a b)).2 ∧
      (c.purge now a).1 + ((c.purge now a).2.purge now b).1 = (c.purge now (min a b)).1 := by
    intro a b
    have hfirst := c.size_purge now a
    have hsecond := (c.purge now a).2.size_purge now b
    have hboth := c.size_purge now (min a b)
    rw [purge_purge] at hsecond
    exact ⟨c.purge_purge now a b, by omega⟩
  constructor
  case kept =>
    intro maxAge key e
    rw [get_eq_ok_iff, get_eq_ok_iff, get?_purge_eq_some_iff]
  case taken =>
    intro maxAge key e
    rw [mem_lost_purge_iff, get_eq_ok_iff]
  case counted => exact fun maxAge => ⟨(c.lost_purge now maxAge).symm, c.nodup_lost _⟩
  case merged => exact hmerged
  case antitone =>
    rintro a b hab ⟨key, e⟩ he
    obtain ⟨hget, hage⟩ := mem_lost_purge_iff.1 he
    exact mem_lost_purge_iff.2 ⟨hget, Nat.lt_of_le_of_lt hab hage⟩
  case repeated =>
    intro maxAge
    obtain ⟨hleft, hcount⟩ := hmerged maxAge maxAge
    rw [Nat.min_self] at hleft hcount
    exact Prod.ext (by omega) hleft
  case swapped =>
    intro maxAge session
    have hleft := c.removeSession_purge now maxAge session
    have hpurge := c.size_purge now maxAge
    have hsession := (c.purge now maxAge).2.size_removeSession session
    have hsession' := c.size_removeSession session
    have hpurge' := (c.removeSession session).2.size_purge now maxAge
    rw [hleft] at hsession
    exact ⟨hleft, by omega⟩

end FunctionCache

/-! ## Sweeps of all applications -/

/-- Purges of both caches of an application merge as those of one cache do. -/
theorem Caches.purge_purge (cs : Caches) (now a b : Nat) :
    ((cs.purge now a).2.purge now b).2 = (cs.purge now (min a b)).2 ∧
      (cs.purge now a).1 + ((cs.purge now a).2.purge now b).1 = (cs.purge now (min a b)).1 := by
  obtain ⟨htools, htoolCount⟩ := (cs.tools.purgesCompose now).merged a b
  obtain ⟨hfunctions, hfunctionCount⟩ := (cs.functions.purgesCompose now).merged a b
  simp only [purge, htools, hfunctions, true_and]
  omega

namespace State

/-- The entry of a key in a cache of an application, which is known by its place among the
applications. -/
def entryAt? (s : State) (i : Nat) (kind : CacheKind) (key : CacheKey) : Option Entry :=
  s.mounts[i]?.bind fun m => (m.caches.of kind).entries.get? key

/-- **A sweep is the purges of all caches** of all applications. -/
structure PurgesUnite (s : State) : Prop where
  /-- Each application has its two caches purged, and is otherwise left as it is. -/
  purged : ∀ maxAge, (s.purgeAll maxAge).2.mounts = s.mounts.map fun m =>
    { m with caches := ⟨(m.caches.tools.purge s.now maxAge).2,
      (m.caches.functions.purge s.now maxAge).2⟩ }
  /-- What leaves is what leaves any of the caches. -/
  taken : ∀ maxAge i kind key e,
    s.entryAt? i kind key = some e ∧ (s.purgeAll maxAge).2.entryAt? i kind key = none ↔
      ∃ m, s.mounts[i]? = some m ∧
        (key, e) ∈ (m.caches.of kind).lost ((m.caches.of kind).purge s.now maxAge).2
  /-- What is counted is what all purges count. -/
  counted : ∀ maxAge, (s.purgeAll maxAge).1 = (s.mounts.map fun m =>
    (m.caches.tools.purge s.now maxAge).1 + (m.caches.functions.purge s.now maxAge).1).sum
  /-- Two sweeps at one time come to one with the lesser of the two ages, also in what has been
  counted. -/
  merged : ∀ a b, ((s.purgeAll a).2.purgeAll b).2 = (s.purgeAll (min a b)).2 ∧
    (s.purgeAll a).1 + ((s.purgeAll a).2.purgeAll b).1 = (s.purgeAll (min a b)).1
  /-- The order of the applications does not matter. -/
  reordered : ∀ maxAge (ms : List Mount), ms.Perm s.mounts →
    (purgeAll { s with mounts := ms } maxAge).1 = (s.purgeAll maxAge).1 ∧
      (purgeAll { s with mounts := ms } maxAge).2.mounts.Perm (s.purgeAll maxAge).2.mounts

/-- The applications are purged one after the other, by induction on them. -/
theorem purgeMounts_fst_eq_sum (now maxAge : Nat) (ms : List Mount) :
    (purgeMounts now maxAge ms).1 =
      (ms.map fun m => (m.caches.tools.purge now maxAge).1 +
        (m.caches.functions.purge now maxAge).1).sum := by
  induction ms with
  | nil => rfl
  | cons m rest ih =>
      rw [List.map_cons, List.sum_cons, ← ih]
      rfl

/-- A sweep purges the caches of each application. -/
theorem mounts_purgeAll (s : State) (maxAge : Nat) :
    (s.purgeAll maxAge).2.mounts =
      s.mounts.map fun m => { m with caches := (m.caches.purge s.now maxAge).2 } :=
  purgeMounts_snd s.now maxAge s.mounts

/-- Sweeps merge application by application, by induction on them. -/
theorem purgeMounts_purgeMounts (now a b : Nat) (ms : List Mount) :
    (purgeMounts now b (purgeMounts now a ms).2).2 = (purgeMounts now (min a b) ms).2 ∧
      (purgeMounts now a ms).1 + (purgeMounts now b (purgeMounts now a ms).2).1 =
        (purgeMounts now (min a b) ms).1 := by
  induction ms with
  | nil => exact ⟨rfl, rfl⟩
  | cons m rest ih =>
      obtain ⟨hleft, hcount⟩ := m.caches.purge_purge now a b
      obtain ⟨hrest, hothers⟩ := ih
      simp only [purgeMounts, hleft, hrest, true_and]
      omega

/-- **Sweeps merge**: two of them at one time come to one with the lesser age, in what they leave
and in what they count. -/
theorem purgeAll_purgeAll (s : State) (a b : Nat) :
    ((s.purgeAll a).2.purgeAll b).2 = (s.purgeAll (min a b)).2 ∧
      (s.purgeAll a).1 + ((s.purgeAll a).2.purgeAll b).1 = (s.purgeAll (min a b)).1 := by
  obtain ⟨hmounts, hcount⟩ := purgeMounts_purgeMounts s.now a b s.mounts
  refine ⟨?_, hcount⟩
  simp only [purgeAll, Metrics.observePurge, hmounts, Nat.add_assoc, hcount]

/-- The sweeps of a service unite the purges of its caches. -/
theorem purgesUnite (s : State) : s.PurgesUnite := by
  constructor
  case purged => exact s.mounts_purgeAll
  case taken =>
    intro maxAge i kind key e
    simp only [entryAt?, mounts_purgeAll, List.getElem?_map]
    cases s.mounts[i]? with
    | none => simp
    | some m =>
        simp [FunctionCache.mem_lost_iff, FunctionCache.contains_eq_false_iff, Caches.of_purge]
  case counted => exact fun maxAge => purgeMounts_fst_eq_sum s.now maxAge s.mounts
  case merged => exact s.purgeAll_purgeAll
  case reordered =>
    intro maxAge ms hms
    constructor
    · show (purgeMounts s.now maxAge ms).1 = (purgeMounts s.now maxAge s.mounts).1
      rw [purgeMounts_fst_eq_sum, purgeMounts_fst_eq_sum]
      exact (hms.map _).sum_eq
    · rw [mounts_purgeAll, mounts_purgeAll]
      exact hms.map _

end State

/-- **Purges compose.** Those of one cache merge, whenever they are made and whatever the cache
holds, and those of all caches of a service make up a sweep. -/
theorem purges_compose :
    (∀ (now : Nat) (c : FunctionCache), c.PurgesCompose now) ∧ ∀ s : State, s.PurgesUnite :=
  ⟨FunctionCache.purgesCompose, State.purgesUnite⟩

end Switchboard
