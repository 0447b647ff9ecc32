import Mathlib.Data.List.Forall2
import Switchboard.Proofs.Service.Calls
import Switchboard.Proofs.Tool.Coercion

/-!
# Binding arguments

A tool declares parameters in order, and a call brings JSON arguments. Binding takes the value of
each parameter from the members of an object and stops at the first parameter that has none of its
kind.

* `Param.Takes`: the parameter finds its argument in the members. `Param.Lacks`: what is wrong where
  it does not.
* `bindParams_eq_ok_iff`: parameters are bound iff each of them takes its argument, in order.
  `bindParams_eq_error_iff`: otherwise the error is that of the first parameter that lacks its
  argument. Both are inductions on the parameters.
* **`binds_exactly`**: what binding answers for any JSON value.
-/

namespace Switchboard

/-! ## One parameter -/

/-- The parameter finds the argument `a` in the members: a value under its name that is coerced to
`a`. -/
def Param.Takes (members : List (String × Json)) (p : Param) (a : Argument) : Prop :=
  ∃ v, Assoc.get? p.name members = some v ∧ p.kind.coerce p.name v = .ok a

/-- **What is wrong with the value of a parameter.** -/
inductive Param.Lacks (members : List (String × Json)) (p : Param) : ArgumentError → Prop where
  /-- There is none. -/
  | absent (h : Assoc.get? p.name members = none) : Lacks members p (.missing p.name)
  /-- It is `null`. -/
  | null (h : Assoc.get? p.name members = some .null) : Lacks members p (.missing p.name)
  /-- It cannot be coerced. -/
  | unfit {v : Json} (h : Assoc.get? p.name members = some v) (hv : v ≠ .null)
      (hunfit : ∀ a, p.kind.coerce p.name v ≠ .ok a) :
      Lacks members p (.wrongKind p.name p.kind v.compact)

/-- Entries under the names of parameters have these names in order. -/
theorem Param.names_of_forall₂ {ps : List Param} {entries : List (String × Argument)}
    (h : List.Forall₂ (fun p entry => entry.1 = p.name) ps entries) :
    entries.map (·.1) = ps.map Param.name := by
  rw [← List.forall₂_eq_eq_eq, List.forall₂_map_left_iff, List.forall₂_map_right_iff]
  exact h.flip

namespace ToolDefinition

section one

variable {members : List (String × Json)} {p : Param}

/-- A parameter is bound iff it takes its argument. -/
theorem bindParam_eq_ok_iff {entry : String × Argument} :
    bindParam members p = .ok entry ↔ entry.1 = p.name ∧ p.Takes members entry.2 := by
  unfold bindParam Param.Takes
  cases Assoc.get? p.name members with
  | none => simp
  | some v =>
      obtain ⟨name, a⟩ := entry
      cases hcoerce : p.kind.coerce p.name v with
      | error e => simp [Except.map, hcoerce]
      | ok b => simp [Except.map, hcoerce, eq_comm]

/-- A parameter is bound to the argument that it takes. -/
theorem bindParam_of_takes {a : Argument} (h : p.Takes members a) :
    bindParam members p = .ok (p.name, a) :=
  bindParam_eq_ok_iff.2 ⟨rfl, h⟩

/-- A parameter cannot be bound iff it lacks its argument, and for what it lacks. -/
theorem bindParam_eq_error_iff {e : ArgumentError} :
    bindParam members p = .error e ↔ p.Lacks members e := by
  unfold bindParam
  constructor
  · intro h
    split at h
    · next hnone =>
      cases h
      exact .absent hnone
    · next v hv =>
      cases hcoerce : p.kind.coerce p.name v with
      | ok a =>
          rw [hcoerce] at h
          cases h
      | error e' =>
          rw [hcoerce] at h
          cases h
          rcases ParamKind.coerce_eq_error_iff.1 hcoerce with ⟨rfl, rfl⟩ | ⟨hnull, -, rfl⟩
          · exact .null hv
          · refine .unfit hv hnull fun a ha => ?_
            rw [ha] at hcoerce
            cases hcoerce
  · intro h
    cases h with
    | absent h => rw [h]
    | null h =>
        rw [h]
        rfl
    | @unfit v h hv hunfit =>
        rw [h]
        have haccept : p.kind.accept? v = none := by
          cases haccept : p.kind.accept? v with
          | none => rfl
          | some a => exact absurd (ParamKind.coerce_eq_ok_iff.2 haccept) (hunfit a)
        show (p.kind.coerce p.name v).map _ = _
        rw [ParamKind.coerce_eq_error_iff.2 (.inr ⟨hv, haccept, rfl⟩)]
        rfl

end one

/-! ## The parameters in order -/

section all

variable {members : List (String × Json)} {ps : List Param}

/-- **Parameters are bound iff each takes its argument**, and then in order and under their
names. -/
theorem bindParams_eq_ok_iff {entries : List (String × Argument)} :
    bindParams members ps = .ok entries ↔
      List.Forall₂ (fun p entry => entry.1 = p.name ∧ p.Takes members entry.2) ps entries := by
  induction ps generalizing entries with
  | nil =>
      rw [List.forall₂_nil_left_iff]
      exact ⟨fun h => by cases h; rfl, fun h => by rw [h]; rfl⟩
  | cons p rest ih =>
      rw [bindParams]
      constructor
      · intro h
        split at h
        · cases h
        · next entry hp =>
          split at h
          · cases h
          · next others hrest =>
            cases h
            exact .cons (bindParam_eq_ok_iff.1 hp) (ih.1 hrest)
      · rintro (_ | ⟨hp, hrest⟩)
        rw [bindParam_eq_ok_iff.2 hp]
        dsimp only
        rw [ih.2 hrest]

/-- **The error is that of the first parameter** that lacks its argument. -/
theorem bindParams_eq_error_iff {e : ArgumentError} :
    bindParams members ps = .error e ↔
      ∃ before p later, ps = before ++ p :: later ∧
        (∀ q ∈ before, ∃ a, q.Takes members a) ∧ p.Lacks members e := by
  induction ps with
  | nil =>
      constructor
      · intro h
        cases h
      · rintro ⟨before, p, later, heq, -⟩
        cases before <;> cases heq
  | cons p rest ih =>
      rw [bindParams]
      constructor
      · intro h
        split at h
        · next e' hp =>
          cases h
          exact ⟨[], p, rest, rfl, by simp, bindParam_eq_error_iff.1 hp⟩
        · next entry hp =>
          split at h
          · next e' hrest =>
            cases h
            obtain ⟨before, q, later, rfl, hbefore, hq⟩ := ih.1 hrest
            have hp' : ∃ a, p.Takes members a := ⟨_, (bindParam_eq_ok_iff.1 hp).2⟩
            exact ⟨p :: before, q, later, rfl, List.forall_mem_cons.2 ⟨hp', hbefore⟩, hq⟩
          · cases h
      · rintro ⟨before, q, later, heq, hbefore, hq⟩
        cases before with
        | nil =>
            cases heq
            rw [bindParam_eq_error_iff.2 hq]
        | cons b before =>
            cases heq
            obtain ⟨⟨a, ha⟩, hbefore⟩ := List.forall_mem_cons.1 hbefore
            rw [bindParam_of_takes ha]
            dsimp only
            rw [ih.2 ⟨before, q, later, rfl, hbefore, hq⟩]

/-- Binding looks up the names of the parameters and nothing else. -/
theorem bindParams_congr {members' : List (String × Json)}
    (h : ∀ p ∈ ps, Assoc.get? p.name members = Assoc.get? p.name members') :
    bindParams members ps = bindParams members' ps := by
  induction ps with
  | nil => rfl
  | cons p rest ih =>
      obtain ⟨hp, hrest⟩ := List.forall_mem_cons.1 h
      rw [bindParams, bindParams, ih hrest, bindParam, bindParam, hp]

/-- Parameters are bound iff none lacks its argument. -/
theorem exists_bindParams_iff :
    (∃ entries, bindParams members ps = .ok entries) ↔
      ∀ p ∈ ps, ∃ a, p.Takes members a := by
  constructor
  · rintro ⟨entries, h⟩
    have htaken := (bindParams_eq_ok_iff.1 h).imp fun p entry h =>
      And.intro (Exists.intro entry.2 h.2) h
    exact ((List.forall₂_and_left _ _).1 htaken).1
  · intro h
    cases hbind : bindParams members ps with
    | ok entries => exact ⟨entries, rfl⟩
    | error e =>
        obtain ⟨before, p, later, rfl, -, hp⟩ := bindParams_eq_error_iff.1 hbind
        obtain ⟨a, ha⟩ := h p (by simp)
        have hok := bindParam_of_takes ha
        rw [bindParam_eq_error_iff.2 hp] at hok
        cases hok

end all

/-! ## Binding -/

/-- **What binding answers for JSON arguments.** -/
structure BindsExactly (d : ToolDefinition) : Prop where
  /-- It succeeds for an object in which every parameter finds an argument, and for `null` if there
  are no parameters. -/
  succeeds_iff : ∀ v, (∃ as, d.bind v = .ok as) ↔
    (∃ members, v = .obj members ∧ ∀ p ∈ d.params, ∃ a, p.Takes members a) ∨
      (v = .null ∧ d.params = [])
  /-- The arguments are those of the parameters, in order and under their names. -/
  bound : ∀ members as, d.bind (.obj members) = .ok as ↔
    List.Forall₂ (fun p entry => entry.1 = p.name ∧ p.Takes members entry.2) d.params as.entries
  /-- The names of arguments are the declared ones. -/
  names : ∀ v as, d.bind v = .ok as → as.entries.map (·.1) = d.params.map Param.name
  /-- What is neither an object nor `null` is no arguments. -/
  not_object : ∀ v, d.bind v = .error .notAnObject ↔
    (∀ members, v ≠ .obj members) ∧ v ≠ .null
  /-- In an object the first parameter that lacks its argument is the error. -/
  first_lacking : ∀ members e, d.bind (.obj members) = .error e ↔
    ∃ before p later, d.params = before ++ p :: later ∧
      (∀ q ∈ before, ∃ a, q.Takes members a) ∧ p.Lacks members e
  /-- Members that are not declared make no difference. -/
  undeclared : ∀ members members',
    (∀ p ∈ d.params, Assoc.get? p.name members = Assoc.get? p.name members') →
      d.bind (.obj members) = d.bind (.obj members')
  /-- No arguments are the empty object. -/
  null_eq : d.bind .null = d.bind (.obj [])
  /-- Where binding fails the handler is not called, and the error is what the caller is told. -/
  not_called : ∀ v e key, d.bind v = .error e →
    (d.invokeWithHooks key v).handlerCalls = [] ∧
      (d.invokeWithHooks key v).result = .error ⟨d.owner, d.method, .argument e⟩

/-- An object is bound to the arguments that its members are bound to. -/
theorem bind_obj_eq_ok_iff {d : ToolDefinition} {members : List (String × Json)} {as : Arguments} :
    d.bind (.obj members) = .ok as ↔ bindParams members d.params = .ok as.entries := by
  show (bindParams members d.params).map Arguments.mk = .ok as ↔ _
  cases bindParams members d.params with
  | error e => simp [Except.map]
  | ok entries =>
      obtain ⟨entries'⟩ := as
      simp [Except.map]

/-- An object cannot be bound for the reason for which its members cannot. -/
theorem bind_obj_eq_error_iff {d : ToolDefinition} {members : List (String × Json)}
    {e : ArgumentError} :
    d.bind (.obj members) = .error e ↔ bindParams members d.params = .error e := by
  show (bindParams members d.params).map Arguments.mk = .error e ↔ _
  cases bindParams members d.params <;> simp [Except.map]

/-- What is bound has been taken from some members, which for `null` are none. -/
theorem exists_members_of_bind {d : ToolDefinition} {v : Json} {as : Arguments}
    (h : d.bind v = .ok as) :
    ∃ members, d.bind (.obj members) = .ok as := by
  cases v with
  | obj members => exact ⟨members, h⟩
  | null => exact ⟨[], d.bind_null ▸ h⟩
  | _ => cases h

/-- What is bound has been taken from members, parameter by parameter. -/
theorem forall₂_takes_of_bind {d : ToolDefinition} {v : Json} {as : Arguments}
    (h : d.bind v = .ok as) :
    ∃ members, List.Forall₂ (fun p entry => entry.1 = p.name ∧ p.Takes members entry.2)
      d.params as.entries := by
  obtain ⟨members, hmembers⟩ := exists_members_of_bind h
  exact ⟨members, bindParams_eq_ok_iff.1 (bind_obj_eq_ok_iff.1 hmembers)⟩

/-- No parameter finds an argument where there are no members. -/
theorem not_takes_nil {p : Param} {a : Argument} : ¬ p.Takes [] a := by
  rintro ⟨v, hv, -⟩
  cases hv

/-- An object is bound iff every parameter finds its argument in it. -/
theorem exists_bind_obj_iff {d : ToolDefinition} {members : List (String × Json)} :
    (∃ as, d.bind (.obj members) = .ok as) ↔ ∀ p ∈ d.params, ∃ a, p.Takes members a := by
  rw [← exists_bindParams_iff]
  constructor
  · rintro ⟨as, h⟩
    exact ⟨as.entries, bind_obj_eq_ok_iff.1 h⟩
  · rintro ⟨entries, h⟩
    exact ⟨⟨entries⟩, bind_obj_eq_ok_iff.2 h⟩

/-- No arguments at all are bound iff there are no parameters. -/
theorem exists_bind_null_iff {d : ToolDefinition} :
    (∃ as, d.bind .null = .ok as) ↔ d.params = [] := by
  rw [bind_null, exists_bind_obj_iff, List.eq_nil_iff_forall_not_mem]
  refine forall_congr' fun p => ⟨fun h hp => ?_, fun h hp => absurd hp h⟩
  obtain ⟨a, ha⟩ := h hp
  exact not_takes_nil ha

/-- An object is never refused for its shape. -/
theorem bind_obj_ne_notAnObject {d : ToolDefinition} {members : List (String × Json)} :
    d.bind (.obj members) ≠ .error .notAnObject := by
  intro h
  obtain ⟨before, p, later, -, -, hp⟩ := bindParams_eq_error_iff.1 (bind_obj_eq_error_iff.1 h)
  cases hp

/-- **Binding is exact**: what it answers for any JSON value, by the shape of the value. -/
theorem binds_exactly (d : ToolDefinition) : d.BindsExactly := by
  constructor
  case succeeds_iff =>
    intro v
    constructor
    · rintro ⟨as, h⟩
      cases v with
      | obj members => exact .inl ⟨members, rfl, exists_bind_obj_iff.1 ⟨as, h⟩⟩
      | null => exact .inr ⟨rfl, exists_bind_null_iff.1 ⟨as, h⟩⟩
      | _ => cases h
    · rintro (⟨members, rfl, h⟩ | ⟨rfl, h⟩)
      · exact exists_bind_obj_iff.2 h
      · exact exists_bind_null_iff.2 h
  case bound =>
    intro members as
    rw [bind_obj_eq_ok_iff, bindParams_eq_ok_iff]
  case names =>
    intro v as h
    obtain ⟨members, hmembers⟩ := forall₂_takes_of_bind h
    exact Param.names_of_forall₂ (hmembers.imp fun _ _ h => h.1)
  case not_object =>
    intro v
    constructor
    · intro h
      constructor
      · rintro members rfl
        exact bind_obj_ne_notAnObject h
      · rintro rfl
        exact bind_obj_ne_notAnObject (d.bind_null ▸ h)
    · rintro ⟨hobj, hnull⟩
      cases v with
      | obj members => exact absurd rfl (hobj members)
      | null => exact absurd rfl hnull
      | _ => rfl
  case first_lacking =>
    intro members e
    rw [bind_obj_eq_error_iff, bindParams_eq_error_iff]
  case undeclared =>
    intro members members' h
    show (bindParams members d.params).map Arguments.mk =
      (bindParams members' d.params).map Arguments.mk
    rw [bindParams_congr h]
  case null_eq => exact d.bind_null
  case not_called =>
    intro v e key h
    rw [handlerCalls_invokeWithHooks, result_invokeWithHooks, invoke, h]
    exact ⟨rfl, rfl⟩

end ToolDefinition

end Switchboard
