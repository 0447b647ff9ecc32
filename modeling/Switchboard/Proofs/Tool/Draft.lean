import Mathlib.Data.List.Forall2
import Switchboard.Tool.Definition

/-!
# What a draft declares

A draft that is built gives a tool with everything that the draft says: its names as they are, its
parameters in order and with the kinds of their types, its handler and its hooks.

* `ParamDraft.Declares`, `declares_of_buildAll`: a parameter, and all of them in order.
* **`ToolDraft.Declares`**, `declares_of_build`: the tool.
-/

namespace Switchboard

namespace ParamDraft

/-- The parameter is the declared one, and its kind is the one that the declared type stands for. -/
structure Declares (declared : ParamDraft) (p : Param) : Prop where
  name_eq : p.name = declared.name
  kind_eq : ParamKind.ofTypeName? declared.typeName = some p.kind
  description_eq : p.description = declared.description

/-- A parameter that is built is the declared one. -/
theorem declares_of_build {declared : ParamDraft} {earlier : List String} {p : Param}
    (h : declared.build earlier = .ok p) : declared.Declares p := by
  unfold build at h
  split at h
  · cases h
  · split at h
    · cases h
    · split at h
      · next hkind =>
        cases h
        exact ⟨rfl, hkind, rfl⟩
      · cases h

/-- Checked parameters are the declared ones in order. -/
theorem declares_of_buildAll {ps : List ParamDraft} {earlier : List String} {params : List Param}
    (h : buildAll earlier ps = .ok params) : List.Forall₂ Declares ps params := by
  induction ps generalizing earlier params with
  | nil =>
      cases h
      exact .nil
  | cons p rest ih =>
      rw [buildAll] at h
      split at h
      · cases h
      · next param hp =>
        split at h
        · cases h
        · next others hrest =>
          cases h
          exact .cons (declares_of_build hp) (ih hrest)

end ParamDraft

namespace ToolDraft

/-- **The tool is what the draft declares.** -/
structure Declares (draft : ToolDraft) (d : ToolDefinition) : Prop where
  owner_eq : d.owner = draft.owner
  method_eq : d.method = draft.method
  name_eq : d.name = draft.publicName
  description_eq : d.description = draft.description
  params : List.Forall₂ ParamDraft.Declares draft.params d.params
  fireAndForget_eq : d.fireAndForget = draft.fireAndForget
  handler_eq : draft.handler = some d.handler
  lifecycle_eq : d.lifecycle = draft.lifecycle

/-- A draft that passes its check declares the definition. -/
theorem declares_of_check {draft : ToolDraft} {d : ToolDefinition} (h : draft.check = .ok d) :
    draft.Declares d := by
  unfold check at h
  split at h
  · cases h
  · split at h
    · cases h
    · split at h
      · cases h
      · split at h
        · cases h
        · cases h
        · next hparams hhandler =>
          cases h
          exact
            ⟨rfl, rfl, rfl, rfl, ParamDraft.declares_of_buildAll hparams, rfl, hhandler, rfl⟩

/-- A draft that is built declares the definition. -/
theorem declares_of_build {draft : ToolDraft} {d : ToolDefinition} (h : draft.build = .ok d) :
    draft.Declares d := by
  unfold build at h
  split at h
  · next hcheck =>
    cases h
    exact declares_of_check hcheck
  · cases h

end ToolDraft

end Switchboard
