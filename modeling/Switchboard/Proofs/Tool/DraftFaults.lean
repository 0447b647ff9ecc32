import Switchboard.Proofs.Tool.Draft

/-!
# Which drafts are built

A draft is checked part by part, and the check ends with the first fault that it meets. This file
says without a check which drafts are built, and which fault any other draft is told of.

* `ParamKind.acceptedNames`: the names of types. `ofTypeName?_eq_some_iff`: the kind that one of
  them stands for.
* `ParamDraft.Sound`: parameters with which nothing is wrong, in whatever order they are looked at.
* `ParamDraft.FaultBehind`: what is wrong with a parameter that is declared behind others.
* `exists_buildAll_iff`, `buildAll_eq_error_iff`: sound parameters are accepted, and of others the
  first one that is at fault is told. The invariant is that the names that the check remembers are
  those of the parameters before.
* `ToolDraft.WellFormed`, `ToolDraft.FirstFault`: the same of a whole draft.
* **`draft_judged`**: a draft is built iff it is well formed, gives the tool that it declares, and
  is otherwise told of its first fault.
-/

namespace Switchboard

/-! ## Names of types -/

namespace ParamKind

/-- The names under which a type can be declared. -/
def acceptedNames : List String := ["string", "str", "integer", "int", "i64", "boolean", "bool"]

/-- The declared type stands for the kind: without the blanks around it, and in small letters, it is
one of the names of the kind. -/
def SpelledBy (k : ParamKind) (typeName : String) : Prop :=
  Text.asciiLower (Text.trim typeName) ∈ k.typeNames

/-- The accepted type names are those of the kinds. -/
theorem mem_acceptedNames_iff {n : String} :
    n ∈ acceptedNames ↔ ∃ k : ParamKind, n ∈ k.typeNames := by
  have hall : acceptedNames = all.flatMap typeNames := rfl
  have hmem : ∀ k : ParamKind, k ∈ all := by
    intro k
    cases k <;> decide
  rw [hall, List.mem_flatMap]
  simp [hmem]

/-- No name stands for two kinds. -/
theorem eq_of_mem_typeNames {n : String} {k k' : ParamKind} (h : n ∈ k.typeNames)
    (h' : n ∈ k'.typeNames) : k = k' := by
  have hdisjoint : ∀ k k' : ParamKind, k ≠ k' →
      ∀ n ∈ k.typeNames, n ∉ k'.typeNames := by
    intro k k'
    cases k <;> cases k' <;> decide
  by_contra hne
  exact hdisjoint k k' hne n h h'

/-- A type name stands for a kind iff it is one of its names, blanks at its ends and capital letters
apart. -/
theorem ofTypeName?_eq_some_iff {typeName : String} {k : ParamKind} :
    ofTypeName? typeName = some k ↔ k.SpelledBy typeName := by
  unfold ofTypeName? SpelledBy
  dsimp only
  generalize Text.asciiLower (Text.trim typeName) = n
  constructor
  · intro h
    simpa using List.find?_some h
  · intro h
    have hfound : (all.find? fun k' => k'.typeNames.contains n).isSome = true := by
      rw [List.find?_isSome]
      exact ⟨k, by cases k <;> decide, by simpa using h⟩
    obtain ⟨k', hk'⟩ := Option.isSome_iff_exists.1 hfound
    have hmem : n ∈ k'.typeNames := by simpa using List.find?_some hk'
    rw [hk', eq_of_mem_typeNames h hmem]

/-- A no-break space is blank, and the case of letters does not matter. -/
example : ofTypeName? "\u00a0Int " = some .integer := by decide

/-- A type name stands for no kind iff it is not accepted. -/
theorem ofTypeName?_eq_none_iff {typeName : String} :
    ofTypeName? typeName = none ↔ Text.asciiLower (Text.trim typeName) ∉ acceptedNames := by
  rw [Option.eq_none_iff_forall_ne_some, mem_acceptedNames_iff, not_exists]
  exact forall_congr' fun k => not_congr ofTypeName?_eq_some_iff

end ParamKind

/-! ## Parameters -/

namespace ParamDraft

/-- **Nothing is wrong with the parameters**: none is without a name, no two have the same, and each
has an accepted type. -/
structure Sound (ps : List ParamDraft) : Prop where
  named : ∀ p ∈ ps, Text.allBlank p.name = false
  distinct : (ps.map ParamDraft.name).Nodup
  typed : ∀ p ∈ ps, Text.asciiLower (Text.trim p.typeName) ∈ ParamKind.acceptedNames

/-- **What is wrong with a parameter** that is declared behind others: it is without a name, it has
the name of one of them, or its type is not accepted. The first of these is what is told. -/
inductive FaultBehind (earlier : List ParamDraft) (p : ParamDraft) : DraftFault → Prop where
  | blank (h : Text.allBlank p.name = true) : FaultBehind earlier p (.emptyField .paramName)
  | repeated (hnamed : Text.allBlank p.name = false) (h : p.name ∈ earlier.map ParamDraft.name) :
      FaultBehind earlier p (.duplicateParam p.name)
  | untyped (hnamed : Text.allBlank p.name = false) (hnew : p.name ∉ earlier.map ParamDraft.name)
      (h : Text.asciiLower (Text.trim p.typeName) ∉ ParamKind.acceptedNames) :
      FaultBehind earlier p (.unsupportedParamType p.name p.typeName)

section parameters

variable {earlier ps : List ParamDraft} {p : ParamDraft} {seen : List String} {fault : DraftFault}

/-- No parameters at all are sound. -/
theorem sound_nil : Sound [] := ⟨by simp, List.nodup_nil, by simp⟩

/-- Where all parameters are sound, the first ones are. -/
theorem Sound.of_append {more : List ParamDraft} (h : Sound (ps ++ more)) : Sound ps := by
  refine ⟨fun q hq => h.named q (List.mem_append_left _ hq), ?_,
    fun q hq => h.typed q (List.mem_append_left _ hq)⟩
  have hdistinct := h.distinct
  rw [List.map_append, List.nodup_append] at hdistinct
  exact hdistinct.1

/-- With one more parameter the parameters stay sound iff nothing is wrong with it behind them. -/
theorem sound_concat_iff :
    Sound (earlier ++ [p]) ↔ Sound earlier ∧ ∀ fault, ¬ p.FaultBehind earlier fault := by
  constructor
  · intro h
    refine ⟨h.of_append, fun fault hfault => ?_⟩
    have hmem : p ∈ earlier ++ [p] := by simp
    cases hfault with
    | blank hblank =>
        rw [h.named p hmem] at hblank
        cases hblank
    | repeated _ hold =>
        have hdistinct := h.distinct
        rw [List.map_append, List.nodup_append] at hdistinct
        exact hdistinct.2.2 _ hold _ (by simp) rfl
    | untyped _ _ htype => exact htype (h.typed p hmem)
  · rintro ⟨h, hfault⟩
    have hnamed : Text.allBlank p.name = false := by
      by_contra hblank
      exact hfault _ (.blank (by simpa using hblank))
    have hnew : p.name ∉ earlier.map ParamDraft.name :=
      fun hold => hfault _ (.repeated hnamed hold)
    have htyped : Text.asciiLower (Text.trim p.typeName) ∈ ParamKind.acceptedNames := by
      by_contra htype
      exact hfault _ (.untyped hnamed hnew htype)
    refine ⟨?_, ?_, ?_⟩
    · exact List.forall_mem_append.2 ⟨h.named, by simpa using hnamed⟩
    · rw [List.map_append, List.nodup_append]
      refine ⟨h.distinct, by simp, ?_⟩
      intro name hname other hother
      obtain rfl : other = p.name := by simpa using hother
      exact fun heq => hnew (heq ▸ hname)
    · exact List.forall_mem_append.2 ⟨h.typed, by simpa using htyped⟩

/-! ### One parameter -/

variable (hseen : ∀ name, name ∈ seen ↔ name ∈ earlier.map ParamDraft.name)
include hseen

/-- The check of a parameter fails with what is wrong with it. -/
theorem build_eq_error_iff : p.build seen = .error fault ↔ p.FaultBehind earlier fault := by
  unfold build
  cases hblank : Text.allBlank p.name with
  | true =>
      rw [if_pos rfl]
      constructor
      · rintro ⟨⟩
        exact .blank hblank
      · intro h
        cases h with
        | blank _ => rfl
        | repeated hnamed _ => simp [hblank] at hnamed
        | untyped hnamed _ _ => simp [hblank] at hnamed
  | false =>
      rw [if_neg Bool.false_ne_true]
      by_cases hold : p.name ∈ seen
      · rw [if_pos (by simpa using hold)]
        constructor
        · rintro ⟨⟩
          exact .repeated hblank ((hseen _).1 hold)
        · intro h
          cases h with
          | blank h => simp [hblank] at h
          | repeated _ _ => rfl
          | untyped _ hnew _ => exact absurd ((hseen _).1 hold) hnew
      · rw [if_neg (by simpa using hold)]
        cases hkind : ParamKind.ofTypeName? p.typeName with
        | some k =>
            refine iff_of_false nofun fun h => ?_
            cases h with
            | blank h => simp [hblank] at h
            | repeated _ h => exact hold ((hseen _).2 h)
            | untyped _ _ h =>
                rw [← ParamKind.ofTypeName?_eq_none_iff, hkind] at h
                cases h
        | none =>
            have htype := ParamKind.ofTypeName?_eq_none_iff.1 hkind
            constructor
            · rintro ⟨⟩
              exact .untyped hblank (fun h => hold ((hseen _).2 h)) htype
            · intro h
              cases h with
              | blank h => simp [hblank] at h
              | repeated _ h => exact absurd ((hseen _).2 h) hold
              | untyped _ _ _ => rfl

/-- It succeeds if nothing is wrong with it. -/
theorem exists_build_iff :
    (∃ param, p.build seen = .ok param) ↔ ∀ fault, ¬ p.FaultBehind earlier fault := by
  constructor
  · rintro ⟨param, hparam⟩ fault hfault
    rw [(build_eq_error_iff hseen).2 hfault] at hparam
    cases hparam
  · intro h
    cases hbuild : p.build seen with
    | ok param => exact ⟨param, rfl⟩
    | error fault => exact absurd ((build_eq_error_iff hseen).1 hbuild) (h fault)

/-! ### All parameters -/

omit hseen in
/-- Parameters are refused for the first one, or if that is built for the others behind it. -/
theorem buildAll_cons_eq_error_iff {rest : List ParamDraft} :
    buildAll seen (p :: rest) = .error fault ↔
      p.build seen = .error fault ∨
        ((∃ param, p.build seen = .ok param) ∧
          buildAll (p.name :: seen) rest = .error fault) := by
  rw [buildAll]
  cases p.build seen with
  | error fault' => simp
  | ok param => cases buildAll (p.name :: seen) rest <;> simp

omit hseen in
/-- Parameters are built iff the first one is, and the others behind it. -/
theorem exists_buildAll_cons_iff {rest : List ParamDraft} :
    (∃ params, buildAll seen (p :: rest) = .ok params) ↔
      (∃ param, p.build seen = .ok param) ∧ ∃ params, buildAll
        (p.name :: seen) rest = .ok params := by
  rw [buildAll]
  cases p.build seen with
  | error fault' => simp
  | ok param => cases buildAll (p.name :: seen) rest <;> simp

/-- Behind one more parameter its name has been seen too. -/
theorem mem_cons_seen_iff (p : ParamDraft) (name : String) :
    name ∈ p.name :: seen ↔ name ∈ (earlier ++ [p]).map ParamDraft.name := by
  rw [List.mem_cons, hseen, List.map_append, List.mem_append, or_comm]
  simp

/-- **Parameters are accepted iff they are sound.** -/
theorem exists_buildAll_iff (hearlier : Sound earlier) :
    (∃ params, buildAll seen ps = .ok params) ↔ Sound (earlier ++ ps) := by
  induction ps generalizing earlier seen with
  | nil => simpa [buildAll] using hearlier
  | cons p rest ih =>
      rw [exists_buildAll_cons_iff, exists_build_iff hseen, List.append_cons]
      constructor
      · rintro ⟨hp, hrest⟩
        exact (ih (mem_cons_seen_iff hseen p) (sound_concat_iff.2 ⟨hearlier, hp⟩)).1 hrest
      · intro h
        have hconcat : Sound (earlier ++ [p]) := h.of_append
        exact ⟨(sound_concat_iff.1 hconcat).2, (ih (mem_cons_seen_iff hseen p) hconcat).2 h⟩

/-- **Of others the first one that is at fault is told.** -/
theorem buildAll_eq_error_iff (hearlier : Sound earlier) :
    buildAll seen ps = .error fault ↔
      ∃ before p later, ps = before ++ p :: later ∧ Sound (earlier ++ before) ∧
        p.FaultBehind (earlier ++ before) fault := by
  induction ps generalizing earlier seen with
  | nil => simp [buildAll]
  | cons p rest ih =>
      rw [buildAll_cons_eq_error_iff, build_eq_error_iff hseen, exists_build_iff hseen]
      constructor
      · rintro (hp | ⟨hp, hrest⟩)
        · exact ⟨[], p, rest, rfl, by simpa using hearlier, by simpa using hp⟩
        · rw [ih (mem_cons_seen_iff hseen p) (sound_concat_iff.2 ⟨hearlier, hp⟩)] at hrest
          obtain ⟨before, q, later, rfl, hbefore, hq⟩ := hrest
          rw [← List.append_cons] at hbefore hq
          exact ⟨p :: before, q, later, rfl, hbefore, hq⟩
      · rintro ⟨before, q, later, heq, hbefore, hq⟩
        cases before with
        | nil =>
            obtain ⟨rfl, rfl⟩ := List.cons.inj heq
            exact .inl (by simpa using hq)
        | cons first others =>
            obtain ⟨rfl, rfl⟩ := List.cons.inj heq
            rw [List.append_cons] at hbefore hq
            have hconcat : Sound (earlier ++ [p]) := hbefore.of_append
            refine .inr ⟨(sound_concat_iff.1 hconcat).2, ?_⟩
            exact (ih (mem_cons_seen_iff hseen p) hconcat).2 ⟨others, q, later, rfl,
              hbefore, hq⟩

end parameters

end ParamDraft

/-! ## Drafts -/

namespace ToolDraft

variable {draft : ToolDraft} {fault : DraftFault}

/-- The owner, the method and the public name of the draft are not blank. -/
structure Named (draft : ToolDraft) : Prop where
  owner : Text.allBlank draft.owner = false
  method : Text.allBlank draft.method = false
  name : Text.allBlank draft.publicName = false

/-- **The draft is well formed**: it has its names, nothing is wrong with its parameters, and it has
a handler. -/
structure WellFormed (draft : ToolDraft) : Prop where
  named : draft.Named
  params : ParamDraft.Sound draft.params
  handled : ∃ handler, draft.handler = some handler

/-- **The first fault of a draft**: of its owner, its method, its public name, of the first
parameter that is at fault behind those before it, or of its handler. -/
inductive FirstFault (draft : ToolDraft) : DraftFault → Prop where
  | owner (h : Text.allBlank draft.owner = true) : FirstFault draft (.emptyField .owner)
  | method (howner : Text.allBlank draft.owner = false) (h : Text.allBlank draft.method = true) :
      FirstFault draft (.emptyField .method)
  | name (howner : Text.allBlank draft.owner = false) (hmethod : Text.allBlank draft.method = false)
      (h : Text.allBlank draft.publicName = true) : FirstFault draft (.emptyField .name)
  | param {before later : List ParamDraft} {p : ParamDraft} {fault : DraftFault}
      (hnamed : draft.Named) (hsplit : draft.params = before ++ p :: later)
      (hbefore : ParamDraft.Sound before) (h : p.FaultBehind before fault) : FirstFault draft fault
  | handler (hnamed : draft.Named) (hparams : ParamDraft.Sound draft.params)
      (h : draft.handler = none) :
      FirstFault draft .missingHandler

/-- Where the names are there, the parameters are looked at, and then the handler. -/
theorem check_eq_error_iff_of_named (h : draft.Named) :
    draft.check = .error fault ↔
      ParamDraft.buildAll [] draft.params = .error fault ∨
        ((∃ params, ParamDraft.buildAll [] draft.params = .ok params) ∧ draft.handler = none ∧
          fault = .missingHandler) := by
  unfold check
  rw [if_neg (by simp [h.owner]), if_neg (by simp [h.method]), dif_neg (by simp [h.name])]
  split
  · next hparams => simp [hparams]
  · next hparams hhandler => simp [hparams, hhandler, eq_comm]
  · next hparams hhandler => simp [hparams, hhandler]

/-- A draft with names passes its check iff its parameters are built and it has a handler. -/
theorem exists_check_iff_of_named (h : draft.Named) :
    (∃ d, draft.check = .ok d) ↔
      (∃ params, ParamDraft.buildAll [] draft.params = .ok params) ∧
        ∃ handler, draft.handler = some handler := by
  unfold check
  rw [if_neg (by simp [h.owner]), if_neg (by simp [h.method]), dif_neg (by simp [h.name])]
  split
  · next hparams => simp [hparams]
  · next hparams hhandler => simp [hhandler]
  · next hparams hhandler => simp [hparams, hhandler]

/-- A draft that passes its check has names. -/
theorem named_of_check {d : ToolDefinition} (h : draft.check = .ok d) : draft.Named := by
  unfold check at h
  split at h
  · cases h
  · next howner =>
    split at h
    · cases h
    · next hmethod =>
      split at h
      · cases h
      · next hname => exact ⟨by simpa using howner, by simpa using hmethod,
          by simpa using hname⟩

/-- No name has been seen before the first parameter. -/
theorem mem_seen_nil_iff (name : String) :
    name ∈ ([] : List String) ↔ name ∈ ([] : List ParamDraft).map ParamDraft.name := by
  simp

/-- **A draft passes its check iff it is well formed.** -/
theorem exists_check_iff : (∃ d, draft.check = .ok d) ↔ draft.WellFormed := by
  have hparams : (∃ params, ParamDraft.buildAll [] draft.params = .ok params) ↔
      ParamDraft.Sound draft.params :=
    ParamDraft.exists_buildAll_iff mem_seen_nil_iff ParamDraft.sound_nil
  constructor
  · rintro ⟨d, hd⟩
    have hnamed := named_of_check hd
    obtain ⟨hsound, hhandler⟩ := (exists_check_iff_of_named hnamed).1 ⟨d, hd⟩
    exact ⟨hnamed, hparams.1 hsound, hhandler⟩
  · intro h
    exact (exists_check_iff_of_named h.named).2 ⟨hparams.2 h.params, h.handled⟩

/-- The first fault of a draft is the one that its check finds. -/
theorem check_of_firstFault (h : draft.FirstFault fault) : draft.check = .error fault := by
  cases h with
  | owner h =>
      unfold check
      rw [if_pos h]
  | method howner h =>
      unfold check
      rw [if_neg (by simp [howner]), if_pos h]
  | name howner hmethod h =>
      unfold check
      rw [if_neg (by simp [howner]), if_neg (by simp [hmethod]), dif_pos h]
  | param hnamed hsplit hbefore h =>
      rw [check_eq_error_iff_of_named hnamed,
        ParamDraft.buildAll_eq_error_iff mem_seen_nil_iff ParamDraft.sound_nil]
      exact .inl ⟨_, _, _, hsplit, hbefore, h⟩
  | handler hnamed hparams h =>
      rw [check_eq_error_iff_of_named hnamed,
        ParamDraft.exists_buildAll_iff mem_seen_nil_iff ParamDraft.sound_nil]
      exact .inr ⟨hparams, h, rfl⟩

/-- The fault that a check finds is the first one of the draft. -/
theorem firstFault_of_check (h : draft.check = .error fault) : draft.FirstFault fault := by
  by_cases hnamed : draft.Named
  · rw [check_eq_error_iff_of_named hnamed,
      ParamDraft.buildAll_eq_error_iff mem_seen_nil_iff ParamDraft.sound_nil,
      ParamDraft.exists_buildAll_iff mem_seen_nil_iff ParamDraft.sound_nil] at h
    rcases h with ⟨before, p, later, hsplit, hbefore, hp⟩ | ⟨hparams, hhandler, rfl⟩
    · exact .param hnamed hsplit hbefore hp
    · exact .handler hnamed hparams hhandler
  · -- one of the names is blank
    unfold check at h
    split at h
    · next howner =>
      cases h
      exact .owner howner
    · next howner =>
      split at h
      · next hmethod =>
        cases h
        exact .method (by simpa using howner) hmethod
      · next hmethod =>
        split at h
        · next hname =>
          cases h
          exact .name (by simpa using howner) (by simpa using hmethod) hname
        · next hname =>
          exact absurd ⟨by simpa using howner, by simpa using hmethod,
            by simpa using hname⟩ hnamed

/-- **The check fails with the first fault.** -/
theorem check_eq_error_iff : draft.check = .error fault ↔ draft.FirstFault fault :=
  ⟨firstFault_of_check, check_of_firstFault⟩

/-! ## The judgement of a draft -/

/-- **What becomes of a draft.** -/
structure Judged (draft : ToolDraft) : Prop where
  /-- It is built iff it is well formed. -/
  built_iff : (∃ d, draft.build = .ok d) ↔ draft.WellFormed
  /-- What is built is the declared tool. -/
  declares : ∀ d, draft.build = .ok d → draft.Declares d
  /-- Its parameters have, in order, the kinds that the declared types stand for. -/
  kinds : ∀ d, draft.build = .ok d →
    List.Forall₂ (fun declared (p : Param) => p.kind.SpelledBy declared.typeName)
      draft.params d.params
  /-- The error says whose the draft is and what its first fault is. -/
  refused_iff : ∀ e, draft.build = .error e ↔
    e.owner = draft.owner ∧ e.method = draft.method ∧ draft.FirstFault e.fault

/-- **Every draft is judged by its first fault**, and is built if it has none. -/
theorem draft_judged (draft : ToolDraft) : draft.Judged := by
  have hok : ∀ d, draft.build = .ok d ↔ draft.check = .ok d := by
    intro d
    unfold build
    cases draft.check <;> simp
  constructor
  case built_iff =>
    simp only [hok]
    exact exists_check_iff
  case declares => exact fun d => declares_of_build
  case kinds =>
    intro d hd
    exact (declares_of_build hd).params.imp fun _ _ hp =>
      ParamKind.ofTypeName?_eq_some_iff.1 hp.kind_eq
  case refused_iff =>
    rintro ⟨owner, method, fault⟩
    rw [← check_eq_error_iff]
    unfold build
    cases draft.check with
    | ok d => simp
    | error fault' =>
        simp only [Except.error.injEq, DefinitionError.mk.injEq]
        constructor
        · rintro ⟨rfl, rfl, rfl⟩
          exact ⟨rfl, rfl, rfl⟩
        · rintro ⟨rfl, rfl, rfl⟩
          exact ⟨rfl, rfl, rfl⟩

end ToolDraft

end Switchboard
