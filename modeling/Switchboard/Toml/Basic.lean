import Switchboard.Table

/-!
# TOML documents

A document is a table. Each table remembers how it came to be (`Origin`), because that decides
whether a later line may add to it: a table under a header is closed for dotted keys, a table that
dotted keys made is closed for headers, and an inline table is closed for everything. `Toml.update`
goes down a path of keys under these rules.
-/

namespace Switchboard

/-- How a table came to be. -/
inductive Origin where
  /-- A header names it, or it is the whole document. -/
  | header
  /-- A header names a table below it. -/
  | implied
  /-- Dotted keys name something below it. -/
  | dotted
  /-- It is written between braces. -/
  | inline
deriving DecidableEq

/-- A TOML value. -/
inductive Toml where
  /-- A text. -/
  | text (s : String)
  /-- A whole number. -/
  | int (n : Int)
  /-- Another number, as it is written. -/
  | float (written : String)
  /-- A truth value. -/
  | bool (b : Bool)
  /-- A date, a time or both, as it is written. -/
  | datetime (written : String)
  /-- A list between brackets. -/
  | array (elements : List Toml)
  /-- A table. -/
  | table (origin : Origin) (members : List (String × Toml))
  /-- The tables of a repeated header, the latest first. -/
  | tables (elements : List Toml)

namespace Toml

instance : Inhabited Toml := ⟨table .header []⟩

/-- The document without lines. -/
def empty : Toml := table .header []

/-- The value of a key of a table. -/
def get? (key : String) : Toml → Option Toml
  | table _ members => Assoc.get? key members
  | _ => none

/-- Changes the table at the end of a path of keys by `f`. Tables that are missing on the way are
made; of the tables of a repeated header the latest is meant. With `byDots` the path is a part of a
dotted key and may not pass a table under a header. -/
def update (byDots : Bool) (f : Toml → Option Toml) : List String → Toml → Option Toml
  | [], t => f t
  | key :: path, table origin members =>
    let put (child : Option Toml) : Option Toml :=
      child.map fun c => table origin (Assoc.insert key c members)
    match Assoc.get? key members with
    | none => put (update byDots f path (table (if byDots then .dotted else .implied) []))
    | some (tables (latest :: earlier)) =>
      put ((update byDots f path latest).map fun c => tables (c :: earlier))
    | some (table .inline _) => none
    | some (table .header ms) =>
      if byDots then none else put (update byDots f path (table .header ms))
    | some child@(table _ _) => put (update byDots f path child)
    | some _ => none
  | _ :: _, _ => none

/-- Gives a key a value, if it has none yet. -/
def define (key : String) (v : Toml) : Toml → Option Toml
  | table origin members =>
    if (Assoc.get? key members).isSome then none
    else some (table origin (Assoc.insert key v members))
  | _ => none

/-- The key of a line: the last part, and the parts before it. -/
def splitKey : List String → List String × String
  | [] => ([], "")
  | [k] => ([], k)
  | k :: rest => let (path, last) := splitKey rest; (k :: path, last)

/-- Gives a dotted key a value inside a table. A table that the key passes must have been made by
dotted keys. -/
def assign (key : List String) (v : Toml) (t : Toml) : Option Toml :=
  let (path, last) := splitKey key
  let put : Toml → Option Toml
    | table .dotted members => define last v (table .dotted members)
    | table origin members => if path.isEmpty then define last v (table origin members) else none
    | _ => none
  update true put path t

/-- Opens the table that a header names. -/
def openTable (key : List String) (t : Toml) : Option Toml :=
  let (path, last) := splitKey key
  let put : Toml → Option Toml
    | table origin members =>
      match Assoc.get? last members with
      | none => some (table origin (Assoc.insert last (table .header []) members))
      | some (table .implied ms) =>
        some (table origin (Assoc.insert last (table .header ms) members))
      | some _ => none
    | _ => none
  update false put path t

/-- Opens one more table of the repeated header that is named. -/
def openElement (key : List String) (t : Toml) : Option Toml :=
  let (path, last) := splitKey key
  let put : Toml → Option Toml
    | table origin members =>
      match Assoc.get? last members with
      | none => some (table origin (Assoc.insert last (tables [table .header []]) members))
      | some (tables ts) =>
        some (table origin (Assoc.insert last (tables (table .header [] :: ts)) members))
      | some _ => none
    | _ => none
  update false put path t

/-- Gives a dotted key a value inside the table under the header `header`. -/
def assignUnder (header : List String) (key : List String) (v : Toml) (t : Toml) : Option Toml :=
  update false (assign key v) header t

end Toml

end Switchboard
