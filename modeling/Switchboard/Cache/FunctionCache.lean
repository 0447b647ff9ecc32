import Switchboard.RequestType
import Switchboard.Tool.Invocation

/-!
# Function caches

A cache holds an entry for each key under which something has been registered, and an entry holds
the registered functions by their public names. An entry is created by the first registration under
its key and is as old as that; it leaves the cache by `remove`, `removeSession`, `clear`, or by a
`purge` at which it is older than the given age. Times are milliseconds of one clock.
-/

namespace Switchboard

/-! ## Entries -/

/-- What is registered under one key. -/
structure Entry where
  /-- The key. -/
  key : CacheKey
  /-- When the entry was created. -/
  created : Nat
  /-- The functions by their public names. -/
  functions : Table String ToolDefinition
  /-- A function stands under its own public name. -/
  name_eq : ∀ {name : String} {d : ToolDefinition}, functions.get? name = some d → d.name = name

namespace Entry

/-- An entry without functions. -/
def new (key : CacheKey) (now : Nat) : Entry := ⟨key, now, .empty, by simp⟩

/-- Puts a function into an entry, in place of an earlier one of its name. -/
def insert (e : Entry) (d : ToolDefinition) : Entry where
  key := e.key
  created := e.created
  functions := e.functions.insert d.name d
  name_eq {name d'} h := by
    rw [Table.get?_insert] at h
    split at h
    · next hname => rw [← Option.some.inj h, hname]
    · exact e.name_eq h

/-- The time since the entry was created. -/
def age (e : Entry) (now : Nat) : Nat := now - e.created

/-- The function with a name. -/
def get? (e : Entry) (name : String) : Option ToolDefinition := e.functions.get? name

/-- The names of the functions, strictly increasing. -/
def names (e : Entry) : List String := e.functions.keys

/-- How many functions there are. -/
def size (e : Entry) : Nat := e.functions.size

end Entry

/-! ## Errors -/

/-- Why an operation on a cache fails. -/
inductive CacheError where
  /-- The key already has a function of that name. -/
  | alreadyDeclared (kind : CacheKind) (key : CacheKey) (name : String)
  /-- The key has no entry. -/
  | notFound (kind : CacheKind) (key : CacheKey)
  /-- The entry has no function of that name. -/
  | functionNotFound (kind : CacheKind) (key : CacheKey) (name : String)
deriving DecidableEq

/-- The wording of a cache error. -/
def CacheError.message : CacheError → String
  | alreadyDeclared kind key name =>
    kind.name ++ " `" ++ name ++ "` is already declared for " ++ key.display
  | notFound kind key => kind.name ++ " cache entry not found for " ++ key.display
  | functionNotFound kind key name => kind.name ++ " `" ++ name ++ "` not found for " ++ key.display

/-! ## Caches -/

/-- The functions registered for sessions and assistants. -/
structure FunctionCache where
  /-- What the cache holds. -/
  kind : CacheKind
  /-- The entries by their keys. -/
  entries : Table CacheKey Entry
  /-- When entries were last purged, if ever. -/
  lastPurge : Option Nat

namespace FunctionCache

/-- A cache without entries. -/
def new (kind : CacheKind) : FunctionCache := ⟨kind, .empty, none⟩

/-- How many entries there are. -/
def size (c : FunctionCache) : Nat := c.entries.size

/-- The key has an entry. -/
def contains (c : FunctionCache) (key : CacheKey) : Bool := c.entries.contains key

/-- Registers a function under a key, at the time `now`. -/
def add (c : FunctionCache) (now : Nat) (key : CacheKey) (d : ToolDefinition) :
    Except CacheError FunctionCache :=
  let entry := (c.entries.get? key).getD (.new key now)
  if entry.functions.contains d.name then .error (.alreadyDeclared c.kind key d.name)
  else .ok { c with entries := c.entries.insert key (entry.insert d) }

/-- The entry of a key. -/
def get (c : FunctionCache) (key : CacheKey) : Except CacheError Entry :=
  match c.entries.get? key with
  | some entry => .ok entry
  | none => .error (.notFound c.kind key)

/-- The function of a key with a name. -/
def function (c : FunctionCache) (key : CacheKey) (name : String) :
    Except CacheError ToolDefinition :=
  match c.get key with
  | .error e => .error e
  | .ok entry =>
    match entry.get? name with
    | some d => .ok d
    | none => .error (.functionNotFound c.kind key name)

/-- Takes out the entry of a key, if there is one. -/
def remove (c : FunctionCache) (key : CacheKey) : Option Entry × FunctionCache :=
  match c.entries.get? key with
  | some entry => (some entry, { c with entries := c.entries.erase key })
  | none => (none, c)

/-- The keys of a session, in key order. -/
def sessionKeys (c : FunctionCache) (session : String) : List CacheKey :=
  c.entries.keys.filter fun k => k.session = session

/-- Takes out the entries of keys, one after the other, and lists those that were there. -/
def removeAll (c : FunctionCache) : List CacheKey → List Entry × FunctionCache
  | [] => ([], c)
  | key :: rest =>
    let (taken, c) := c.remove key
    let (others, c) := c.removeAll rest
    (taken.toList ++ others, c)

/-- Takes out every entry of a session: the keys are collected first and then removed one by one. -/
def removeSession (c : FunctionCache) (session : String) : List Entry × FunctionCache :=
  c.removeAll (c.sessionKeys session)

/-- Takes out the entries older than `maxAge` and counts them. -/
def purge (c : FunctionCache) (now maxAge : Nat) : Nat × FunctionCache :=
  let kept := c.entries.filter fun _ e => e.age now ≤ maxAge
  (c.entries.size - kept.size, { c with entries := kept, lastPurge := some now })

/-- Takes out every entry. -/
def clear (c : FunctionCache) : FunctionCache := { c with entries := .empty }

end FunctionCache

end Switchboard
