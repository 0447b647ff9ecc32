import Switchboard.Cache.FunctionCache

/-!
# Snapshots of caches

A snapshot shows what a cache holds without handlers, hooks or arguments: keys in order, ages in
whole seconds, and for each function its names and parameters.
-/

namespace Switchboard

/-- A function as a snapshot shows it. -/
structure FunctionSnapshot where
  /-- The public name. -/
  name : String
  /-- Owner and method. -/
  target : String
  /-- What it does, for a reader. -/
  description : String
  /-- Names and kinds of the parameters, in order. -/
  params : List (String × ParamKind)
  /-- The platform gets an empty result. -/
  fireAndForget : Bool
deriving DecidableEq

/-- An entry as a snapshot shows it. -/
structure EntrySnapshot where
  /-- The key. -/
  key : CacheKey
  /-- The age in whole seconds. -/
  ageSeconds : Nat
  /-- The functions, by increasing name. -/
  functions : List FunctionSnapshot
deriving DecidableEq

/-- A cache as a snapshot shows it. -/
structure CacheSnapshot where
  /-- What the cache holds. -/
  kind : CacheKind
  /-- How many entries there are. -/
  entryCount : Nat
  /-- When entries were last purged. -/
  lastPurge : Option Nat
  /-- The entries, by increasing key. -/
  entries : List EntrySnapshot
deriving DecidableEq

/-- What a snapshot shows of a function. -/
def ToolDefinition.snapshot (d : ToolDefinition) : FunctionSnapshot :=
  ⟨d.name, d.qualifiedName, d.description, d.params.map fun p => (p.name, p.kind),
    d.fireAndForget⟩

/-- What a snapshot shows of an entry. -/
def Entry.snapshot (e : Entry) (now : Nat) : EntrySnapshot :=
  ⟨e.key, e.age now / 1000, e.functions.values.map ToolDefinition.snapshot⟩

/-- What a snapshot shows of a cache. -/
def FunctionCache.snapshot (c : FunctionCache) (now : Nat) : CacheSnapshot :=
  ⟨c.kind, c.size, c.lastPurge, c.entries.values.map fun e => e.snapshot now⟩

/-! ## JSON forms -/

/-- The JSON form of a function; an empty description is left out. -/
def FunctionSnapshot.toJson (f : FunctionSnapshot) : Json :=
  .object <|
    [("name", .str f.name), ("target", .str f.target),
      ("params", .arr (f.params.map fun p =>
        .object [("name", .str p.1), ("kind", .str p.2.name)])),
      ("fireAndForget", .bool f.fireAndForget)] ++
    Json.member? "description" (if f.description.isEmpty then none else some (.str f.description))

/-- The JSON form of an entry. -/
def EntrySnapshot.toJson (e : EntrySnapshot) : Json :=
  .object [("sessionId", .str e.key.session), ("assistantId", .str e.key.assistant),
    ("ageSeconds", .int e.ageSeconds),
    ("functions", .arr (e.functions.map FunctionSnapshot.toJson))]

/-- The JSON form of a cache. `clock` writes the time of the last purge. -/
def CacheSnapshot.toJson (clock : Nat → String) (c : CacheSnapshot) : Json :=
  .object [("kind", .str c.kind.name), ("entryCount", .int c.entryCount),
    ("lastPurge", (c.lastPurge.map fun t => Json.str (clock t)).getD .null),
    ("entries", .arr (c.entries.map EntrySnapshot.toJson))]

end Switchboard
