import Switchboard.Cache.Snapshot
import Switchboard.Config.Basic
import Switchboard.Service.Observer

/-!
# Applications

An application is one webhook endpoint. It can have two responders: one that sets up the assistant
of a new call and registers tools and functions for it, and one that finds out where to transfer a
call.

What a responder for assistants does is a `Script`: it registers something, sees whether that was
accepted, and goes on, until it ends. It sees nothing else of the caches.
-/

namespace Switchboard

/-! ## Caches of an application -/

/-- The two caches of an application. -/
structure Caches where
  /-- The tools. -/
  tools : FunctionCache
  /-- The functions. -/
  functions : FunctionCache

namespace Caches

/-- Caches without entries. -/
def new : Caches := ⟨.new .toolCall, .new .function⟩

/-- The cache of a kind. -/
def of (cs : Caches) : CacheKind → FunctionCache
  | .toolCall => cs.tools
  | .function => cs.functions

/-- Replaces the cache of a kind. -/
def set (cs : Caches) (kind : CacheKind) (c : FunctionCache) : Caches :=
  match kind with
  | .toolCall => { cs with tools := c }
  | .function => { cs with functions := c }

/-- Registers a function in the cache of a kind. -/
def add (cs : Caches) (kind : CacheKind) (now : Nat) (key : CacheKey) (d : ToolDefinition) :
    Except CacheError Caches :=
  ((cs.of kind).add now key d).map (cs.set kind)

/-- Takes the entries of a session out of both caches and counts them. -/
def removeSession (cs : Caches) (session : String) : Nat × Caches :=
  let (tools, toolCache) := cs.tools.removeSession session
  let (functions, functionCache) := cs.functions.removeSession session
  (tools.length + functions.length, ⟨toolCache, functionCache⟩)

/-- Takes the entries older than `maxAge` out of both caches and counts them. -/
def purge (cs : Caches) (now maxAge : Nat) : Nat × Caches :=
  let (tools, toolCache) := cs.tools.purge now maxAge
  let (functions, functionCache) := cs.functions.purge now maxAge
  (tools + functions, ⟨toolCache, functionCache⟩)

/-- Takes every entry out of both caches. -/
def clear (cs : Caches) : Caches := ⟨cs.tools.clear, cs.functions.clear⟩

end Caches

/-! ## Responders -/

/-- What a responder is told about the call that needs an assistant. -/
structure AssistantRequest where
  /-- The id of the call. -/
  session : String
  /-- The path of the application. -/
  serverPath : String
  /-- The whole message. -/
  payload : Json

/-- What a responder does. -/
inductive Script where
  /-- It ends. -/
  | finish (outcome : Outcome Json)
  /-- It registers a function for an assistant of the call and goes on. -/
  | register (kind : CacheKind) (assistant : String) (d : ToolDefinition)
      (next : Except CacheError Unit → Script)

namespace Script

/-- Runs a script for a session at the time `now`. -/
def run (session : String) (now : Nat) : Script → Caches → Caches × Outcome Json
  | finish outcome, cs => (cs, outcome)
  | register kind assistant d next, cs =>
    match cs.add kind now ⟨session, assistant⟩ d with
    | .ok cs => (next (.ok ())).run session now cs
    | .error e => (next (.error e)).run session now cs

end Script

/-- A function to be declared and registered. -/
structure Registration where
  /-- The cache that it goes to. -/
  kind : CacheKind
  /-- The assistant that it is for. -/
  assistant : String
  /-- The declaration. -/
  draft : ToolDraft

/-- Declares and registers functions in order, fails with the first error of a declaration or a
registration, and otherwise ends as told. -/
def Script.ofRegistrations (last : Outcome Json) : List Registration → Script
  | [] => finish last
  | r :: rest =>
    match r.draft.build with
    | .error e => finish (.failed (.ofText e.message))
    | .ok d =>
      register r.kind r.assistant d fun
        | .ok () => ofRegistrations last rest
        | .error e => finish (.failed (.ofText e.message))

/-! ## Applications -/

/-- One webhook endpoint. -/
structure Application where
  /-- How it is configured. -/
  config : ApplicationConfig
  /-- Sets up the assistant of a new call. -/
  assistant : Option (AssistantRequest → Script) := none
  /-- Finds out where to transfer a call, from the whole message. -/
  transfer : Option (Json → Outcome Json) := none
  /-- Those told about this application's messages and answers. -/
  observers : Observers := {}

/-- The path that the platform posts to. -/
def Application.serverPath (a : Application) : String := a.config.serverPath

/-- The member in which a responder's answer describes the assistant. -/
def assistantMember : String := "assistant"

end Switchboard
