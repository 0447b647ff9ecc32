import Switchboard.Proofs.Cache.History

/-!
# What has been declared under a key

A history registers definitions under a key, and some of them are refused. The entry of the key has,
under each name, the first definition of that name, so that look-ups are those in the list of
everything that has been registered.

* `declared`: the definitions that a history registers under a key, in order, be they accepted or
  refused.
* `Declares`: those since the entry of the key was made. `declares_adds`: registering a list
  declares it.
* `registered_iff_find?`: in a lifetime the accepted definition of a name is the first.
* `Holds`: a cache has the declared definitions under a key.
* **`holds_of_declares`**: a cache has what its history declares.
-/

namespace Switchboard

namespace FunctionCache

/-- The definition that an operation registers under a key. -/
def Op.declared? (k : CacheKey) : Op → Option ToolDefinition
  | add key d => if key = k then some d else none
  | _ => none

/-- The definitions that a history registers under a key, in order. -/
def declared (k : CacheKey) (h : List Op) : List ToolDefinition := h.filterMap (Op.declared? k)

/-- **What a history declares under a key**: all that has been registered since the entry was made,
and nothing if there is no entry. -/
inductive Declares (k : CacheKey) (h : List Op) : List ToolDefinition → Prop where
  /-- The key is out. -/
  | absent (hout : ¬ Alive k h) : Declares k h []
  /-- The key is in, since the beginning of its lifetime. -/
  | alive {before since : List Op} (heq : h = before ++ since) (hl : Lifetime k before since) :
      Declares k h (declared k since)

/-- **A cache has the definitions under a key**, each where no earlier one has its name, and has no
entry for the key if there are none. -/
inductive Holds (c : FunctionCache) (k : CacheKey) : List ToolDefinition → Prop where
  /-- There are none. -/
  | nothing (h : c.get k = .error (.notFound c.kind k)) : Holds c k []
  /-- There are some, in the entry of the key. -/
  | entry {e : Entry} {d : ToolDefinition} {ds : List ToolDefinition} (h : c.get k = .ok e)
      (hfunctions : ∀ name, e.get? name = (d :: ds).find? fun d => d.name = name) :
      Holds c k (d :: ds)

/-! ## Declared definitions -/

section declared

variable {k : CacheKey}

/-- An operation declares what it registers under the key. -/
theorem declared?_eq_some_iff {op : Op} {d : ToolDefinition} :
    op.declared? k = some d ↔ op = .add k d := by
  cases op <;> simp [Op.declared?]

/-- What is declared in a history is what some operation of it registers. -/
theorem mem_declared_iff {h : List Op} {d : ToolDefinition} :
    d ∈ declared k h ↔ .add k d ∈ h := by
  simp only [declared, List.mem_filterMap, declared?_eq_some_iff]
  simp

/-- Registrations one after the other declare their definitions, in order. -/
theorem declared_adds (k : CacheKey) (ds : List ToolDefinition) :
    declared k (ds.map (.add k)) = ds := by
  simp [declared, List.filterMap_map, Function.comp_def, Op.declared?]

/-- Before and after the place of a definition in a list of declared ones stand those that are
declared before and after its registration. -/
theorem declared_eq_append_cons_iff {h : List Op} {d : ToolDefinition}
    {earlier later : List ToolDefinition} :
    declared k h = earlier ++ d :: later ↔
      ∃ done rest, h = done ++ .add k d :: rest ∧ declared k done = earlier ∧
        declared k rest = later := by
  constructor
  · intro heq
    obtain ⟨done, others, rfl, hdone, hothers⟩ := List.filterMap_eq_append_iff.1 heq
    obtain ⟨skipped, op, rest, rfl, hskipped, hop, hrest⟩ :=
      List.filterMap_eq_cons_iff.1 hothers
    obtain rfl := declared?_eq_some_iff.1 hop
    have hnone : declared k skipped = [] := List.filterMap_eq_nil_iff.2 hskipped
    refine ⟨done ++ skipped, rest, by simp, ?_, hrest⟩
    show (done ++ skipped).filterMap _ = _
    rw [List.filterMap_append, hdone, show skipped.filterMap _ = [] from hnone, List.append_nil]
  · rintro ⟨done, rest, rfl, rfl, rfl⟩
    simp [declared, Op.declared?]

/-- Nothing is in a cache to which nothing has happened. -/
theorem not_alive_nil (k : CacheKey) : ¬ Alive k [] := by
  rintro ⟨before, since, heq, hl⟩
  exact hl.ne_nil (List.append_eq_nil_iff.1 heq.symm).2

/-- Registrations of a list are a lifetime of their key. -/
theorem lifetime_adds (k : CacheKey) (d : ToolDefinition) (ds : List ToolDefinition) :
    Lifetime k [] ((d :: ds).map (.add k)) := by
  induction ds using List.reverseRecOn with
  | nil => exact lifetime_singleton (not_alive_nil k) d
  | append_singleton ds last ih =>
      have hconcat : (d :: (ds ++ [last])).map (Op.add k) =
          (d :: ds).map (.add k) ++ [.add k last] := by simp
      rw [hconcat]
      exact (lifetime_concat_iff (by simp)).2 ⟨ih, id⟩

/-- Registering a list in order, and nothing else, declares it. -/
theorem declares_adds (k : CacheKey) (ds : List ToolDefinition) :
    Declares k (ds.map (.add k)) ds := by
  cases ds with
  | nil => exact .absent (not_alive_nil k)
  | cons d ds =>
      have hdeclares : Declares k ((d :: ds).map (.add k)) (declared k ((d :: ds).map (.add k))) :=
        .alive (List.nil_append _).symm (lifetime_adds k d ds)
      rwa [declared_adds] at hdeclares

end declared

/-! ## The first of a name counts -/

section lookups

variable {s₀ : Clocked} {k : CacheKey}

/-- **In a lifetime the accepted definition of a name is the first that was declared.** -/
theorem registered_iff_find? (hk : s₀.cache.entries.get? k = none) {before since : List Op}
    (hl : Lifetime k before since) {name : String} {d : ToolDefinition} :
    d.name = name ∧ Registered s₀ k before since d ↔
      (declared k since).find? (fun d => d.name = name) = some d := by
  rw [List.find?_eq_some_iff_append]
  constructor
  · rintro ⟨rfl, done, rest, rfl, hacc⟩
    refine ⟨by simp, declared k done, declared k rest,
      declared_eq_append_cons_iff.2 ⟨done, rest, rfl, rfl, rfl⟩, ?_⟩
    intro d' hd'
    simpa using (accepts_iff hk _ hl d).1 hacc d' (mem_declared_iff.1 hd')
  · rintro ⟨hname, earlier, later, heq, hearlier⟩
    obtain rfl : d.name = name := by simpa using hname
    obtain ⟨done, rest, rfl, rfl, -⟩ := declared_eq_append_cons_iff.1 heq
    refine ⟨rfl, done, rest, rfl, (accepts_iff hk _ hl d).2 fun d' hd' => ?_⟩
    simpa using hearlier d' (mem_declared_iff.2 hd')

/-- A lifetime declares the definition with which it begins. -/
theorem Lifetime.declared_ne_nil {before since : List Op} (hl : Lifetime k before since) :
    declared k since ≠ [] := by
  obtain ⟨⟨d, rest, rfl⟩, -⟩ := lifetime_iff.1 hl
  simp [declared, Op.declared?]

end lookups

/-- **A cache has what its history declares.** -/
theorem holds_of_declares {k : CacheKey} {h : List Op} {ds : List ToolDefinition}
    (hds : Declares k h ds) (kind : CacheKind) (start : Nat) :
    Holds (run (fresh kind start) h).cache k ds := by
  have hk : (fresh kind start).cache.entries.get? k = none := rfl
  obtain ⟨hAlive, hOut⟩ := get?_run hk h
  cases hds with
  | absent hout => exact .nothing (get_eq_error_iff.2 ⟨hOut hout, rfl⟩)
  | @alive before since heq hl =>
      obtain ⟨e, he, -, hfunctions⟩ := hAlive before since heq hl
      obtain ⟨d, ds, hds⟩ := List.exists_cons_of_ne_nil hl.declared_ne_nil
      rw [hds]
      refine .entry (get_eq_ok_iff.2 he) fun name => Option.ext fun d' => ?_
      rw [hfunctions, registered_iff_find? hk hl, hds]

end FunctionCache

end Switchboard
