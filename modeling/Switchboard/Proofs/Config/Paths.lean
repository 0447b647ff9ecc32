import Mathlib.Data.List.Nodup
import Switchboard.Config.Basic

/-!
# Which paths applications may have

The paths of applications are checked one after the other, and the check ends with the first path
that is at fault. This file says without a check which lists of paths pass, and which path and fault
any other list is told of.

* `Servable`: every path names a route and is not served anyway, and no two are the same, in
  whatever order they come.
* `PathFault.Behind`: what is wrong with a path behind others.
* **`validateApplications_eq_ok_iff`**, **`validateApplications_eq_error_iff`**: servable paths
  pass, and of other paths the first one that is at fault is told. The invariant is that the check
  remembers the paths before, whatever their order.
-/

namespace Switchboard

/-- A path names a route if it is a slash with something behind it. -/
theorem namesRoute_iff {path : String} :
    namesRoute path = true ↔ ∃ c rest, path.toList = '/' :: c :: rest := by
  unfold namesRoute
  split
  · next c rest hpath => simp [hpath]
  · next hpath =>
    refine iff_of_false Bool.false_ne_true ?_
    rintro ⟨c, rest, h⟩
    exact hpath c rest h

/-- **Applications can have these paths**: each names a route, none is served anyway, and no two are
the same. -/
structure Servable (paths : List String) : Prop where
  named : ∀ path ∈ paths, ∃ c rest, path.toList = '/' :: c :: rest
  free : ∀ path ∈ paths, path ∉ reservedPaths
  distinct : paths.Nodup

/-- **What is wrong with a path** that comes behind others: it names no route, it is served anyway,
or it is one of them. The first of these is what is told. -/
inductive PathFault.Behind (earlier : List String) (path : String) : PathFault → Prop where
  | malformed (h : ¬ ∃ c rest, path.toList = '/' :: c :: rest) : Behind earlier path .malformed
  | reserved (hnamed : ∃ c rest, path.toList = '/' :: c :: rest) (h : path ∈ reservedPaths) :
      Behind earlier path .reserved
  | repeated (hnamed : ∃ c rest, path.toList = '/' :: c :: rest) (hfree : path ∉ reservedPaths)
      (h : path ∈ earlier) : Behind earlier path .repeated

section paths

variable {earlier seen paths : List String} {path : String} {fault : PathFault}

/-- No paths at all can be served. -/
theorem servable_nil : Servable [] := ⟨by simp, by simp, List.nodup_nil⟩

/-- Where all paths can be served, the first ones can. -/
theorem Servable.of_append {more : List String} (h : Servable (paths ++ more)) : Servable paths :=
  ⟨fun p hp => h.named p (List.mem_append_left _ hp),
    fun p hp => h.free p (List.mem_append_left _ hp), (List.nodup_append.1 h.distinct).1⟩

/-- With one more path the paths stay servable iff nothing is wrong with it behind them. -/
theorem servable_concat_iff :
    Servable (earlier ++ [path]) ↔
      Servable earlier ∧ ∀ fault, ¬ PathFault.Behind earlier path fault := by
  constructor
  · intro h
    refine ⟨h.of_append, fun fault hfault => ?_⟩
    have hmem : path ∈ earlier ++ [path] := by simp
    cases hfault with
    | malformed hnameless => exact hnameless (h.named path hmem)
    | reserved _ hreserved => exact h.free path hmem hreserved
    | repeated _ _ hold => exact (List.nodup_append.1 h.distinct).2.2 path hold path (by simp) rfl
  · rintro ⟨h, hfault⟩
    have hnamed : ∃ c rest, path.toList = '/' :: c :: rest := by
      by_contra hnameless
      exact hfault _ (.malformed hnameless)
    have hfree : path ∉ reservedPaths := fun hreserved => hfault _ (.reserved hnamed hreserved)
    have hnew : path ∉ earlier := fun hold => hfault _ (.repeated hnamed hfree hold)
    refine ⟨?_, ?_, ?_⟩
    · exact List.forall_mem_append.2 ⟨h.named, by simpa using hnamed⟩
    · exact List.forall_mem_append.2 ⟨h.free, by simpa using hfree⟩
    · rw [List.nodup_append]
      refine ⟨h.distinct, by simp, ?_⟩
      intro old hold other hother
      obtain rfl : other = path := by simpa using hother
      exact fun heq => hnew (heq ▸ hold)

/-! ## The check -/

variable (hseen : ∀ p, p ∈ seen ↔ p ∈ earlier)
include hseen

/-- The fault that is found in a path is the fault that it has behind the earlier ones. -/
theorem pathFault?_eq_some_iff :
    pathFault? seen path = some fault ↔ PathFault.Behind earlier path fault := by
  unfold pathFault?
  by_cases hnamed : namesRoute path = true
  · have hroute := namesRoute_iff.1 hnamed
    rw [if_neg (by simp [hnamed])]
    by_cases hreserved : path ∈ reservedPaths
    · rw [if_pos (by simpa using hreserved)]
      constructor
      · rintro ⟨⟩
        exact .reserved hroute hreserved
      · intro h
        cases h with
        | malformed h => exact absurd hroute h
        | reserved _ _ => rfl
        | repeated _ hfree _ => exact absurd hreserved hfree
    · rw [if_neg (by simpa using hreserved)]
      by_cases hold : path ∈ seen
      · rw [if_pos (by simpa using hold)]
        constructor
        · rintro ⟨⟩
          exact .repeated hroute hreserved ((hseen path).1 hold)
        · intro h
          cases h with
          | malformed h => exact absurd hroute h
          | reserved _ h => exact absurd h hreserved
          | repeated _ _ _ => rfl
      · rw [if_neg (by simpa using hold)]
        refine iff_of_false nofun fun h => ?_
        cases h with
        | malformed h => exact h hroute
        | reserved _ h => exact hreserved h
        | repeated _ _ h => exact hold ((hseen path).2 h)
  · rw [if_pos (by simpa using hnamed)]
    have hnameless := mt namesRoute_iff.2 hnamed
    constructor
    · rintro ⟨⟩
      exact .malformed hnameless
    · intro h
      cases h with
      | malformed _ => rfl
      | reserved h _ => exact absurd h hnameless
      | repeated h _ _ => exact absurd h hnameless

/-- No fault is found in a path iff it has none. -/
theorem pathFault?_eq_none_iff :
    pathFault? seen path = none ↔ ∀ fault, ¬ PathFault.Behind earlier path fault := by
  rw [Option.eq_none_iff_forall_ne_some]
  exact forall_congr' fun fault => not_congr (pathFault?_eq_some_iff hseen)

/-- Behind one more path it has been seen too. -/
theorem mem_seen_concat_iff (path p : String) : p ∈ path :: seen ↔ p ∈ earlier ++ [path] := by
  rw [List.mem_cons, hseen, List.mem_append, List.mem_singleton, or_comm]

/-- **No fault is found iff the paths are servable.** -/
theorem firstPathFault?_eq_none_iff (hearlier : Servable earlier) :
    firstPathFault? seen paths = none ↔ Servable (earlier ++ paths) := by
  induction paths generalizing earlier seen with
  | nil => simpa [firstPathFault?] using hearlier
  | cons path rest ih =>
      rw [firstPathFault?, List.append_cons]
      cases hfault : pathFault? seen path with
      | some fault =>
          refine iff_of_false nofun fun h => ?_
          exact (servable_concat_iff.1 h.of_append).2 fault
            ((pathFault?_eq_some_iff hseen).1 hfault)
      | none =>
          have hconcat := servable_concat_iff.2 ⟨hearlier,
            (pathFault?_eq_none_iff hseen).1 hfault⟩
          exact ih (mem_seen_concat_iff hseen path) hconcat

/-- **The fault that is found is that of the first path at fault.** -/
theorem firstPathFault?_eq_some_iff (hearlier : Servable earlier) :
    firstPathFault? seen paths = some (path, fault) ↔
      ∃ before later, paths = before ++ path :: later ∧ Servable (earlier ++ before) ∧
        PathFault.Behind (earlier ++ before) path fault := by
  induction paths generalizing earlier seen with
  | nil => simp [firstPathFault?]
  | cons first rest ih =>
      rw [firstPathFault?]
      cases hfault : pathFault? seen first with
      | some found =>
          rw [pathFault?_eq_some_iff hseen] at hfault
          constructor
          · rintro ⟨⟩
            exact ⟨[], rest, rfl, by simpa using hearlier, by simpa using hfault⟩
          · rintro ⟨before, later, heq, hbefore, hbehind⟩
            cases before with
            | nil =>
                obtain ⟨rfl, rfl⟩ := List.cons.inj heq
                rw [List.append_nil] at hbehind
                have hfound := (pathFault?_eq_some_iff hseen).2 hfault
                rw [(pathFault?_eq_some_iff hseen).2 hbehind] at hfound
                cases hfound
                rfl
            | cons other others =>
                obtain ⟨rfl, rfl⟩ := List.cons.inj heq
                rw [List.append_cons] at hbefore
                exact absurd hfault ((servable_concat_iff.1 hbefore.of_append).2 found)
      | none =>
          have hclean := (pathFault?_eq_none_iff hseen).1 hfault
          have hconcat := servable_concat_iff.2 ⟨hearlier, hclean⟩
          dsimp only
          rw [ih (mem_seen_concat_iff hseen first) hconcat]
          constructor
          · rintro ⟨before, later, rfl, hbefore, hbehind⟩
            rw [← List.append_cons] at hbefore hbehind
            exact ⟨first :: before, later, rfl, hbefore, hbehind⟩
          · rintro ⟨before, later, heq, hbefore, hbehind⟩
            cases before with
            | nil =>
                obtain ⟨rfl, rfl⟩ := List.cons.inj heq
                rw [List.append_nil] at hbehind
                exact absurd hbehind (hclean fault)
            | cons other others =>
                obtain ⟨rfl, rfl⟩ := List.cons.inj heq
                rw [List.append_cons] at hbefore hbehind
                exact ⟨others, later, rfl, hbefore, hbehind⟩

end paths

/-! ## All paths -/

/-- **The first path at fault**, with what is wrong with it: nothing is wrong with those before. -/
def FirstPathFault (paths : List String) (path : String) (fault : PathFault) : Prop :=
  ∃ before later, paths = before ++ path :: later ∧ Servable before ∧
    PathFault.Behind before path fault

/-- Applications are accepted iff their paths can be served together. -/
theorem validateApplications_eq_ok_iff {paths : List String} :
    validateApplications paths = .ok () ↔ Servable paths := by
  have hnone : firstPathFault? [] paths = none ↔ Servable paths :=
    firstPathFault?_eq_none_iff (fun _ => Iff.rfl) servable_nil
  rw [← hnone, validateApplications]
  cases firstPathFault? [] paths <;> simp

/-- Applications are refused for the first path that is at fault. -/
theorem validateApplications_eq_error_iff {paths : List String} {e : ConfigError} :
    validateApplications paths = .error e ↔
      ∃ path fault, e = .invalidApplication path fault ∧ FirstPathFault paths path fault := by
  have hsome : ∀ path fault, firstPathFault? [] paths = some (path, fault) ↔
      FirstPathFault paths path fault :=
    fun path fault => firstPathFault?_eq_some_iff (fun _ => Iff.rfl) servable_nil
  simp only [← hsome]
  rw [validateApplications]
  cases hfound : firstPathFault? [] paths with
  | none => simp
  | some found =>
      obtain ⟨path, fault⟩ := found
      simp [eq_comm]

/-- Several paths are at fault here, and the first of them is told. -/
example : validateApplications ["/a", "ping", "/a", "/ping"] =
    .error (.invalidApplication "ping" .malformed) := by
  decide

end Switchboard
