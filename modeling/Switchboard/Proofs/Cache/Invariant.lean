import Switchboard.Proofs.Cache.History
import Switchboard.Proofs.Text.ByteOrder
import Switchboard.Proofs.Tool.DraftFaults
import Switchboard.Service.Weather

/-!
# What is in order in every cache

A cache is only ever changed by its operations, and whatever these have done, be it in vain, certain
things hold of every entry. They are proved of one operation here and hold of every history by
induction.

* `get?_perform_cases`: an entry that is there after an operation was there before, or a
  registration has just put a function into it.
* `Persists`: a property that entries get with their first function and do not lose. `Persists.run`:
  every entry of a cache with a history has it.
* `ToolDefinition.WellNamed`: the names in a definition are usable. `ToolDraft.wellNamed_of_build`:
  what is built from a draft is so.
* `Entry.Intact`: an entry is in order. `Entry.Enumerated`: its names are what is to be found in it.
* `FunctionCache.Coherent`: the look-ups of a cache agree with each other.
  `Clocked.Intact.coherent`: they do where the entries are in order.
* **`intact_run`**: both hold after every history that registers what has been built from drafts.
-/

namespace Switchboard

/-! ## Definitions from drafts -/

/-- **The names in the definition are usable**: neither the public name nor the name of a parameter
is blank, and no two parameters have the same. -/
structure ToolDefinition.WellNamed (d : ToolDefinition) : Prop where
  name : Text.allBlank d.name = false
  params : ∀ p ∈ d.params, Text.allBlank p.name = false
  distinct : (d.params.map Param.name).Nodup

/-- The definition has been built from a draft. -/
def ToolDefinition.Built (d : ToolDefinition) : Prop := ∃ draft : ToolDraft, draft.build = .ok d

/-- Declared parameters have the declared names, in order. -/
theorem ParamDraft.names_of_declares {ps : List ParamDraft} {params : List Param}
    (h : List.Forall₂ Declares ps params) : params.map Param.name = ps.map ParamDraft.name := by
  rw [← List.forall₂_eq_eq_eq, List.forall₂_map_left_iff, List.forall₂_map_right_iff]
  exact h.flip.imp fun _ _ hp => hp.name_eq

/-- **The names in what is built are usable**, since a draft that is built is well formed. -/
theorem ToolDraft.wellNamed_of_build {draft : ToolDraft} {d : ToolDefinition}
    (h : draft.build = .ok d) :
    d.WellNamed := by
  have hdeclares := declares_of_build h
  have hcheck : ∃ d, draft.check = .ok d := by
    unfold build at h
    split at h
    · next hcheck => exact ⟨_, hcheck⟩
    · cases h
  have hformed := exists_check_iff.1 hcheck
  have hnames := ParamDraft.names_of_declares hdeclares.params
  constructor
  case name =>
    rw [hdeclares.name_eq]
    exact hformed.named.name
  case params =>
    intro p hp
    have hmem : p.name ∈ draft.params.map ParamDraft.name := hnames ▸ List.mem_map_of_mem hp
    obtain ⟨declared, hdeclared, hname⟩ := List.mem_map.1 hmem
    rw [← hname]
    exact hformed.params.named declared hdeclared
  case distinct =>
    rw [hnames]
    exact hformed.params.distinct

/-! ## Entries -/

namespace Entry

variable {e : Entry}

/-- The names of an entry are those under which it has a function. -/
theorem mem_names_iff {name : String} : name ∈ e.names ↔ ∃ d, e.get? name = some d :=
  e.functions.mem_keys_iff

/-- An entry has functions iff one of them is found. -/
theorem size_pos_iff : 0 < e.size ↔ ∃ name d, e.get? name = some d := by
  have hlength : e.size = e.names.length := (List.length_map _).symm
  simp only [hlength, List.length_pos_iff_exists_mem, mem_names_iff]

/-- **The names of an entry enumerate its functions.** -/
structure Enumerated (e : Entry) : Prop where
  /-- They strictly increase, in the order of their bytes. -/
  increasing : e.names.Pairwise fun name name' => Text.encodeUtf8 name < Text.encodeUtf8 name'
  /-- They are the names under which there is a function. -/
  complete : ∀ name, name ∈ e.names ↔ ∃ d, e.get? name = some d
  /-- There are as many of them as the entry has functions. -/
  length_eq : e.names.length = e.size
  /-- Any other enumeration of these names has them in another order, each as often. -/
  unique : ∀ names : List String, names.Nodup →
    (∀ name, name ∈ names ↔ ∃ d, e.get? name = some d) →
    names.Perm e.names

/-- Every entry enumerates its functions by their names, since they are kept in a sorted table. -/
theorem enumerated (e : Entry) : e.Enumerated where
  increasing := by
    rw [names, Table.keys, List.pairwise_map]
    exact e.functions.sorted.imp Text.encodeUtf8_lt_iff.2
  complete _ := mem_names_iff
  length_eq := List.length_map _
  unique names hnodup hnames := by
    refine (List.perm_ext_iff_of_nodup hnodup e.functions.nodup_keys).2 fun name => ?_
    rw [hnames]
    exact mem_names_iff.symm

/-- **An entry is in order**, under a key and at the time `now`. -/
structure Intact (now : Nat) (key : CacheKey) (e : Entry) : Prop where
  /-- It has functions. -/
  size_pos : 0 < e.size
  /-- It knows its key. -/
  key_eq : e.key = key
  /-- It was not created later than now. -/
  created_le : e.created ≤ now
  /-- Each function stands under its public name, and its names are usable. -/
  functions : ∀ name d, e.get? name = some d → d.name = name ∧ d.WellNamed

end Entry

namespace FunctionCache

/-! ## Properties that persist -/

section persistence

variable {s : Clocked} {op : Op} {k : CacheKey}

/-- **Where the entries of a cache come from**: one that is there after an operation was there
before it, unless the operation has registered a function under its key. -/
theorem get?_perform_cases {e' : Entry} (h : (op.perform s).cache.entries.get? k = some e') :
    s.cache.entries.get? k = some e' ∨
      ∃ d e, op = .add k d ∧ e = (s.cache.entries.get? k).getD (.new k s.now) ∧
        e.get? d.name = none ∧ e' = e.insert d := by
  cases op with
  | add key d =>
      by_cases hkey : k = key
      · subst hkey
        rcases register_cases s.cache s.now k d with
          ⟨_, _, _, _, hreg⟩ | ⟨e, he, hfree, hreg⟩
        · -- refused: nothing is left of the attempt, also no entry without functions
          exact .inl (by simpa [Op.perform, hreg] using h)
        · have hinsert : e.insert d = e' := by simpa [Op.perform, hreg, Table.get?_insert] using h
          exact .inr ⟨d, e, rfl, he, hfree, hinsert.symm⟩
      · exact .inl ((get?_register_of_ne hkey d).symm.trans h)
  | remove key =>
      simp only [Op.perform, get?_remove, Option.ite_none_left_eq_some] at h
      exact .inl h.2
  | removeSession session =>
      simp only [Op.perform, get?_removeSession, Option.ite_none_left_eq_some] at h
      exact .inl h.2
  | purge maxAge =>
      exact .inl (get?_purge_eq_some_iff.1 h).1
  | clear => cases h
  | get _ => exact .inl h
  | function _ _ => exact .inl h
  | advance _ => exact .inl h

/-- Every entry of the cache has the property, under its key and now. -/
def Clocked.Every (s : Clocked) (P : Nat → CacheKey → Entry → Prop) : Prop :=
  ∀ key e, s.cache.entries.get? key = some e → P s.now key e

/-- **A property of entries persists** where definitions with the property `Q` are registered. -/
structure Persists (Q : ToolDefinition → Prop) (P : Nat → CacheKey → Entry → Prop) :
    Prop where
  /-- An entry has it with its first function. -/
  begins : ∀ now key d, Q d → P now key ((Entry.new key now).insert d)
  /-- It keeps it when it gets a function with a new name. -/
  grows : ∀ now key e d, Q d → e.get? d.name = none → P now key e → P now key (e.insert d)
  /-- It keeps it as time passes. -/
  ages : ∀ now later key e, now ≤ later → P now key e → P later key e

variable {Q : ToolDefinition → Prop} {P : Nat → CacheKey → Entry → Prop}

/-- An operation keeps a property that persists. -/
theorem Persists.perform (hP : Persists Q P) (h : s.Every P)
    (hop : ∀ key d, op = .add key d → Q d) :
    (op.perform s).Every P := by
  intro key e' he'
  have hpassed : s.now ≤ (op.perform s).now := by cases op <;> simp [Op.perform]
  apply hP.ages s.now _ key e' hpassed
  rcases get?_perform_cases he' with hold | ⟨d, e, rfl, he, hfree, rfl⟩
  · exact h key e' hold
  · have hd : Q d := hop key d rfl
    cases hk : s.cache.entries.get? key with
    | none =>
        rw [hk, Option.getD_none] at he
        subst he
        exact hP.begins s.now key d hd
    | some old =>
        rw [hk, Option.getD_some] at he
        subst he
        exact hP.grows s.now key e d hd hfree (h key e hk)

/-- **A property that persists holds of every entry after every history**, by induction on the
history from its end. -/
theorem Persists.run (hP : Persists Q P) (kind : CacheKind) (start : Nat) {h : List Op}
    (hQ : ∀ key d, .add key d ∈ h → Q d) : (run (fresh kind start) h).Every P := by
  induction h using List.reverseRecOn with
  | nil =>
      intro key e he
      cases he
  | append_singleton h op ih =>
      rw [run_concat]
      apply hP.perform (ih fun key d hd => hQ key d (List.mem_append_left _ hd))
      rintro key d rfl
      exact hQ key d (by simp)

end persistence

/-! ## Entries in order -/

/-- **The entries of a cache are in order.** -/
def Clocked.Intact (s : Clocked) : Prop := s.Every Entry.Intact

/-- **Entries stay in order** where what is registered has been built from drafts. -/
theorem persists_intact : Persists ToolDefinition.Built Entry.Intact where
  begins now key d hbuilt := by
    obtain ⟨draft, hdraft⟩ := hbuilt
    refine ⟨Entry.size_pos_iff.2 ⟨d.name, d, by simp [Entry.get?_insert]⟩, rfl, Nat.le_refl _,
      fun name d' hd' => ?_⟩
    rw [Entry.get?_insert, Entry.get?_new, Option.ite_none_right_eq_some] at hd'
    obtain ⟨rfl, heq⟩ := hd'
    cases heq
    exact ⟨rfl, ToolDraft.wellNamed_of_build hdraft⟩
  grows now key e d hbuilt _ h := by
    obtain ⟨draft, hdraft⟩ := hbuilt
    refine ⟨Entry.size_pos_iff.2 ⟨d.name, d, by simp [Entry.get?_insert]⟩, h.key_eq,
      h.created_le, fun name d' hd' => ?_⟩
    rw [Entry.get?_insert] at hd'
    split at hd'
    · next hname =>
      cases hd'
      exact ⟨hname.symm, ToolDraft.wellNamed_of_build hdraft⟩
    · exact h.functions name d' hd'
  ages now later key e hpassed h :=
    ⟨h.size_pos, h.key_eq, Nat.le_trans h.created_le hpassed, h.functions⟩

/-! ## Look-ups that agree -/

/-- **The look-ups of a cache agree with each other.** -/
structure Coherent (c : FunctionCache) : Prop where
  /-- Nothing is found by a blank name. -/
  nameless : ∀ key name, Text.allBlank name = true → ∀ d, c.function key name ≠ .ok d
  /-- The names of an entry that is found are in order, and as many as there are functions. -/
  enumerated : ∀ key e, c.get key = .ok e → e.Enumerated
  /-- They are the names by which functions are found. -/
  mem_names_iff : ∀ key e, c.get key = .ok e → ∀ name, name ∈ e.names ↔
    ∃ d, c.function key name = .ok d
  /-- A key is present iff its entry is found. -/
  contains_iff_get : ∀ key, c.contains key = true ↔ ∃ e, c.get key = .ok e
  /-- Its entry is found iff some function is. -/
  get_iff_function : ∀ key, (∃ e, c.get key = .ok e) ↔ ∃ name d, c.function key name = .ok d

/-- Where the entries are in order, the look-ups agree. -/
theorem Clocked.Intact.coherent {s : Clocked} (h : s.Intact) : s.cache.Coherent := by
  constructor
  case nameless =>
    intro key name hblank d hd
    obtain ⟨e, he, hd⟩ := function_eq_ok_iff.1 hd
    obtain ⟨rfl, hnamed⟩ := (h key e he).functions name d hd
    rw [hnamed.name] at hblank
    cases hblank
  case enumerated => exact fun _ e _ => e.enumerated
  case mem_names_iff =>
    intro key e he name
    simp only [Entry.mem_names_iff, function_eq_ok_iff, get_eq_ok_iff.1 he, Option.some.injEq,
      exists_eq_left']
  case contains_iff_get =>
    intro key
    simp only [contains_iff, get_eq_ok_iff]
  case get_iff_function =>
    intro key
    simp only [get_eq_ok_iff, function_eq_ok_iff]
    constructor
    · rintro ⟨e, he⟩
      obtain ⟨name, d, hd⟩ := Entry.size_pos_iff.1 (h key e he).size_pos
      exact ⟨name, d, e, he, hd⟩
    · rintro ⟨_, _, e, he, _⟩
      exact ⟨e, he⟩

/-- **A cache stays in order**, whatever is done to it and whether or not that succeeds, and its
look-ups agree. -/
theorem intact_run (kind : CacheKind) (start : Nat) {h : List Op}
    (hbuilt : ∀ key d, .add key d ∈ h → d.Built) :
    (run (fresh kind start) h).Intact ∧ (run (fresh kind start) h).cache.Coherent := by
  have hintact : (run (fresh kind start) h).Intact := persists_intact.run kind start hbuilt
  exact ⟨hintact, hintact.coherent⟩

/-- A cache is used for the calls `a` and `b`: a registration is refused, a session ends, and what
is done next is in vain. -/
def twoCalls (d : ToolDefinition) : List Op :=
  [.add ⟨"a", defaultAssistant⟩ d, .add ⟨"a", defaultAssistant⟩ d, .advance 5,
    .add ⟨"b", defaultAssistant⟩ d, .removeSession "a", .purge 3,
    .remove ⟨"a", defaultAssistant⟩, .function ⟨"b", defaultAssistant⟩ " "]

/-- It stays in order with the weather tool. -/
theorem intact_run_weather :
    ∃ d, Weather.draft.build = .ok d ∧ (∀ key d', .add key d' ∈ twoCalls d → d'.Built) ∧
      (run (fresh .toolCall 0) (twoCalls d)).Intact ∧
      (run (fresh .toolCall 0) (twoCalls d)).cache.Coherent := by
  obtain ⟨d, hd⟩ : ∃ d, Weather.draft.build = .ok d := ⟨_, rfl⟩
  have hbuilt : ∀ key d', .add key d' ∈ twoCalls d → d'.Built := by
    intro key d' hmem
    obtain rfl : d' = d := by
      simp only [twoCalls, List.mem_cons, Op.add.injEq, reduceCtorEq, false_or, List.not_mem_nil,
        or_false] at hmem
      rcases hmem with ⟨-, rfl⟩ | ⟨-, rfl⟩ | ⟨-, rfl⟩ <;> rfl
    exact ⟨Weather.draft, hd⟩
  exact ⟨d, hd, hbuilt, intact_run .toolCall 0 hbuilt⟩

end FunctionCache

end Switchboard
