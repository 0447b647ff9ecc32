import Switchboard.Toml.Scalar

/-!
# Reading TOML documents

A document is read line by line. Lists and inline tables are the only nested values; their nesting
is bounded, and that bound is what the recursion of `readValue` runs on.
-/

namespace Switchboard.Toml

/-! ## Values -/

/-- Takes the elements of a list up to the closing bracket, at most `fuel` of them; `acc` holds
those read, the latest first. -/
def readElements (item : List Char → Read Toml) (acc : List Toml) :
    Nat → List Char → Read Toml
  | 0, _ => none
  | fuel + 1, cs =>
    match skipLines true cs.length cs with
    | ']' :: rest => some (array acc.reverse, rest)
    | cs =>
      (item cs).bind fun (v, rest) =>
        match skipLines true rest.length rest with
        | ',' :: rest => readElements item (v :: acc) fuel rest
        | ']' :: rest => some (array (v :: acc).reverse, rest)
        | _ => none

/-- Takes a key, the equals sign and a value. -/
def readPair (item : List Char → Read Toml) (cs : List Char) : Read (List String × Toml) :=
  (readKey cs).bind fun (key, rest) =>
    match rest with
    | '=' :: rest => (item (skipBlanks rest)).map fun (v, rest) => ((key, v), rest)
    | _ => none

/-- Takes the members of an inline table up to the closing brace, at most `fuel` of them. -/
def readMembers (item : List Char → Read Toml) (t : Toml) : Nat → List Char → Read Toml
  | 0, _ => none
  | fuel + 1, cs =>
    (readPair item cs).bind fun ((key, v), rest) =>
      (assign key v t).bind fun t =>
        match skipBlanks rest with
        | ',' :: rest => readMembers item t fuel rest
        | '\x7d' :: rest => some (t, rest)
        | _ => none

/-- The table is complete and closed. -/
def closeInline : Toml → Toml
  | table _ members => table .inline members
  | t => t

/-- Takes a value with fewer than `depth` brackets open inside each other. -/
def readValue : Nat → List Char → Read Toml
  | 0, _ => none
  | depth + 1, cs =>
    match cs with
    | '[' :: rest =>
      if depth = 0 then none else readElements (readValue depth) [] (rest.length + 1) rest
    | '\x7b' :: rest =>
      if depth = 0 then none
      else
        match skipBlanks rest with
        | '\x7d' :: rest => some (table .inline [], rest)
        | rest =>
          (readMembers (readValue depth) empty (rest.length + 1) rest).map fun (t, rest) =>
            (closeInline t, rest)
    | cs => readScalar cs

/-! ## Lines -/

/-- A document that is being read. -/
structure Reading where
  /-- What the lines so far say. -/
  document : Toml
  /-- The header that the next lines stand under. -/
  header : List String

/-- Takes the line of a header, behind its first bracket. -/
def readHeader (r : Reading) (cs : List Char) : Read Reading :=
  match cs with
  | '[' :: cs =>
    (readKey cs).bind fun (key, rest) =>
      match rest with
      | ']' :: ']' :: rest =>
        (openElement key r.document).bind fun t => (endOfLine? rest).map fun rest =>
          (⟨t, key⟩, rest)
      | _ => none
  | cs =>
    (readKey cs).bind fun (key, rest) =>
      match rest with
      | ']' :: rest =>
        (openTable key r.document).bind fun t => (endOfLine? rest).map fun rest =>
          (⟨t, key⟩, rest)
      | _ => none

/-- Takes one line. -/
def readLine (r : Reading) (cs : List Char) : Read Reading :=
  match skipBlanks cs with
  | '[' :: rest => readHeader r rest
  | cs =>
    match endOfLine? cs with
    | some rest => some (r, rest)
    | none =>
      (readPair (readValue depthLimit) cs).bind fun ((key, v), rest) =>
        (assignUnder r.header key v r.document).bind fun t =>
          (endOfLine? rest).map fun rest => ({ r with document := t }, rest)

/-- Takes all lines, at most `fuel` of them. -/
def readLines (r : Reading) : Nat → List Char → Option Toml
  | _, [] => some r.document
  | 0, _ => none
  | fuel + 1, cs => (readLine r cs).bind fun (r, rest) => readLines r fuel rest

/-- The mark that may stand in front of a document. -/
def byteOrderMark : Char := '\uFEFF'

/-- The document that a text is. -/
def ofText? (s : String) : Option Toml :=
  let cs := s.toList
  let cs := if cs.head? = some byteOrderMark then cs.drop 1 else cs
  readLines ⟨empty, []⟩ (cs.length + 1) cs

end Switchboard.Toml
