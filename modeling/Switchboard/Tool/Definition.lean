import Switchboard.CacheKey
import Switchboard.Outcome
import Switchboard.Tool.Argument
import Switchboard.Tool.Message

/-!
# Tools: drafts and definitions

A tool is declared as a `ToolDraft`. `ToolDraft.build` checks the draft and gives the
`ToolDefinition` that a cache can hold, or the first fault of the draft: of the owner, the method,
the public name, then parameter by parameter, then of the handler.
-/

namespace Switchboard

/-! ## Handlers and hooks -/

/-- The body of a tool. -/
abbrev Handler := Arguments → Outcome String

/-- The call that a hook is told about. -/
structure ToolCall where
  /-- Where the tool is registered. -/
  key : CacheKey
  /-- The public name of the tool. -/
  name : String
  /-- The arguments as they arrived. -/
  arguments : Json

/-- The hooks of a tool; each is told the call and the result or the error text. -/
structure Lifecycle where
  /-- Runs after the tool has returned. -/
  onComplete : ToolCall → String → Except Panic (List ToolMessage)
  /-- Runs after the tool has failed. -/
  onFailed : ToolCall → String → Except Panic (List ToolMessage)

/-- Hooks that say nothing. -/
def Lifecycle.silent : Lifecycle := ⟨fun _ _ => .ok [], fun _ _ => .ok []⟩

/-! ## Definitions -/

/-- A declared parameter. -/
structure Param where
  /-- Its name in the arguments. -/
  name : String
  /-- The kind of its values. -/
  kind : ParamKind
  /-- What it means, for a reader. -/
  description : String
deriving DecidableEq

/-- A tool that can be registered. -/
structure ToolDefinition where
  /-- Who provides the tool. -/
  owner : String
  /-- What the owner calls it. -/
  method : String
  /-- What the platform calls it. -/
  name : String
  /-- What it does, for a reader. -/
  description : String
  /-- The parameters in order. -/
  params : List Param
  /-- The platform gets an empty result whatever the handler returns. -/
  fireAndForget : Bool
  /-- The body. -/
  handler : Handler
  /-- The hooks, if there are any. -/
  lifecycle : Option Lifecycle
  /-- The public name is not blank. -/
  name_not_blank : Text.allBlank name = false
  /-- No two parameters have the same name. -/
  params_nodup : (params.map Param.name).Nodup

/-- Owner and method, as diagnostics show them. -/
def ToolDefinition.qualifiedName (d : ToolDefinition) : String := d.owner ++ "." ++ d.method

/-! ## Drafts -/

/-- A parameter as it was declared. -/
structure ParamDraft where
  /-- Its name. -/
  name : String
  /-- The name of its type. -/
  typeName : String
  /-- What it means, for a reader. -/
  description : String

/-- A tool as it was declared. -/
structure ToolDraft where
  /-- Who provides the tool. -/
  owner : String
  /-- What the owner calls it. -/
  method : String
  /-- What the platform calls it, if not by the method. -/
  name : Option String
  /-- What it does, for a reader. -/
  description : String
  /-- The parameters in order. -/
  params : List ParamDraft
  /-- The platform gets an empty result whatever the handler returns. -/
  fireAndForget : Bool
  /-- The body, if one has been attached. -/
  handler : Option Handler
  /-- The hooks, if there are any. -/
  lifecycle : Option Lifecycle

/-- The public name of a draft. -/
def ToolDraft.publicName (d : ToolDraft) : String := d.name.getD d.method

/-- A part of a draft that must not be blank. -/
inductive RequiredField where
  /-- The owner. -/
  | owner
  /-- The method. -/
  | method
  /-- The public name. -/
  | name
  /-- The name of a parameter. -/
  | paramName
deriving DecidableEq

/-- What a required field is called. -/
def RequiredField.label : RequiredField → String
  | owner => "owner"
  | method => "method"
  | name => "name"
  | paramName => "parameter name"

/-- What is wrong with a draft. -/
inductive DraftFault where
  /-- A parameter's type name stands for no kind. -/
  | unsupportedParamType (param typeName : String)
  /-- A parameter has the name of an earlier one. -/
  | duplicateParam (param : String)
  /-- A required field is blank. -/
  | emptyField (field : RequiredField)
  /-- No handler has been attached. -/
  | missingHandler
deriving DecidableEq

/-- A faulty draft: whose it is and what is wrong with it. -/
structure DefinitionError where
  /-- The owner of the draft. -/
  owner : String
  /-- The method of the draft. -/
  method : String
  /-- What is wrong. -/
  fault : DraftFault
deriving DecidableEq

/-- The wording of a definition error. -/
def DefinitionError.message (e : DefinitionError) : String :=
  let target := e.owner ++ "." ++ e.method ++ "()"
  match e.fault with
  | .unsupportedParamType param typeName =>
    "parameter `" ++ param ++ "` of " ++ target ++ " has unsupported type `" ++ typeName ++
      "` (expected string, integer or boolean)"
  | .duplicateParam param =>
    "parameter `" ++ param ++ "` of " ++ target ++ " is declared more than once"
  | .emptyField field => target ++ ": " ++ field.label ++ " must not be empty"
  | .missingHandler => target ++ " has no handler"

/-! ## Building -/

/-- Checks one parameter, declared after parameters with the names `earlier`. -/
def ParamDraft.build (earlier : List String) (p : ParamDraft) : Except DraftFault Param :=
  if Text.allBlank p.name then .error (.emptyField .paramName)
  else if earlier.contains p.name then .error (.duplicateParam p.name)
  else
    match ParamKind.ofTypeName? p.typeName with
    | some kind => .ok ⟨p.name, kind, p.description⟩
    | none => .error (.unsupportedParamType p.name p.typeName)

/-- Checks parameters in order, declared after parameters with the names `earlier`. -/
def ParamDraft.buildAll (earlier : List String) : List ParamDraft → Except DraftFault (List Param)
  | [] => .ok []
  | p :: rest =>
    match p.build earlier with
    | .error e => .error e
    | .ok param =>
      match buildAll (p.name :: earlier) rest with
      | .error e => .error e
      | .ok params => .ok (param :: params)

/-- A parameter keeps its name, which no earlier parameter has. -/
theorem ParamDraft.name_of_build {earlier : List String} {p : ParamDraft} {param : Param}
    (h : p.build earlier = .ok param) : param.name = p.name ∧ p.name ∉ earlier := by
  unfold build at h
  split at h
  · cases h
  · split at h
    · cases h
    · next hnew =>
      split at h
      · cases h
        exact ⟨rfl, by simpa using hnew⟩
      · cases h

/-- The names of checked parameters differ from each other and from those of earlier parameters. -/
theorem ParamDraft.nodup_of_buildAll {ps : List ParamDraft} {earlier : List String}
    {params : List Param} (h : buildAll earlier ps = .ok params) :
    (params.map Param.name).Nodup ∧ ∀ param ∈ params, param.name ∉ earlier := by
  induction ps generalizing earlier params with
  | nil =>
    cases h
    exact ⟨List.nodup_nil, by simp⟩
  | cons p rest ih =>
    rw [buildAll] at h
    split at h
    · cases h
    · next param hp =>
      split at h
      · cases h
      · next others hrest =>
        cases h
        obtain ⟨hname, hnew⟩ := name_of_build hp
        obtain ⟨hnodup, hfresh⟩ := ih hrest
        have hout : ∀ q ∈ others, q.name ≠ p.name ∧ q.name ∉ earlier := fun q hq => by
          simpa using hfresh q hq
        constructor
        · rw [List.map_cons, List.nodup_cons, hname]
          refine ⟨fun hmem => ?_, hnodup⟩
          obtain ⟨q, hq, heq⟩ := List.mem_map.1 hmem
          exact (hout q hq).1 heq
        · intro q hq
          rcases List.mem_cons.1 hq with rfl | hq
          · rwa [hname]
          · exact (hout q hq).2

/-- Checks a draft and names its first fault. -/
def ToolDraft.check (d : ToolDraft) : Except DraftFault ToolDefinition :=
  if Text.allBlank d.owner then .error (.emptyField .owner)
  else if Text.allBlank d.method then .error (.emptyField .method)
  else if hname : Text.allBlank d.publicName then .error (.emptyField .name)
  else
    match hparams : ParamDraft.buildAll [] d.params, d.handler with
    | .error e, _ => .error e
    | .ok _, none => .error .missingHandler
    | .ok params, some handler =>
      .ok
        { owner := d.owner
          method := d.method
          name := d.publicName
          description := d.description
          params
          fireAndForget := d.fireAndForget
          handler
          lifecycle := d.lifecycle
          name_not_blank := by simpa using hname
          params_nodup := (ParamDraft.nodup_of_buildAll hparams).1 }

/-- The definition that a draft declares. -/
def ToolDraft.build (d : ToolDraft) : Except DefinitionError ToolDefinition :=
  match d.check with
  | .ok definition => .ok definition
  | .error fault => .error ⟨d.owner, d.method, fault⟩

end Switchboard
