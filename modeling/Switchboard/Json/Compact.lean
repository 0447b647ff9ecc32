import Switchboard.Json.Basic

/-!
# The compact text of a JSON value

No blanks are written, members stand in the order of their names, and only quotes, backslashes and
control characters are escaped.
-/

namespace Switchboard.Json

/-- Numbers are plain while the first digit stands between the fifth place after the point and the
sixteenth before it. -/
def numberLayout : Binary64.Layout := ⟨-5, 15, "e+", "e-"⟩

/-- A digit of a hexadecimal numeral, in small letters. -/
def hexDigit (n : Nat) : Char :=
  if n < 10 then Char.ofNat (48 + n) else Char.ofNat (87 + n)

/-- Writes one character of a text after `acc`. -/
def writeChar (acc : String) (c : Char) : String :=
  if c = '"' then acc ++ "\\\""
  else if c = '\\' then acc ++ "\\\\"
  else if 0x20 ≤ c.toNat then acc.push c
  else if c.toNat = 0x08 then acc ++ "\\b"
  else if c.toNat = 0x0C then acc ++ "\\f"
  else if c = '\n' then acc ++ "\\n"
  else if c = '\r' then acc ++ "\\r"
  else if c = '\t' then acc ++ "\\t"
  else ((acc ++ "\\u00").push (hexDigit (c.toNat / 16))).push (hexDigit (c.toNat % 16))

/-- Writes a text in quotes after `acc`. -/
def writeText (acc : String) (s : String) : String :=
  ((s.toList.foldl writeChar (acc.push '"'))).push '"'

mutual

/-- Writes a value after `acc`. -/
def write (acc : String) : Json → String
  | null => acc ++ "null"
  | bool b => acc ++ (if b then "true" else "false")
  | int n => acc ++ toString n
  | float x => acc ++ numberLayout.write x
  | str s => writeText acc s
  | arr xs => (writeElements (acc.push '[') true xs).push ']'
  | obj members => (writeMembers (acc.push '\x7b') true members).push '\x7d'

/-- Writes the elements of a list; `first` says that none has been written yet. -/
def writeElements (acc : String) (first : Bool) : List Json → String
  | [] => acc
  | x :: xs => writeElements (write (if first then acc else acc.push ',') x) false xs

/-- Writes the members of an object; `first` says that none has been written yet. -/
def writeMembers (acc : String) (first : Bool) : List (String × Json) → String
  | [] => acc
  | (name, v) :: rest =>
    let acc := if first then acc else acc.push ','
    writeMembers (write ((writeText acc name).push ':') v) false rest

end

/-- The compact text. -/
def compact (v : Json) : String := write "" v

/-- The text of a value as a person reads it: a text itself, or the compact text of another
value. -/
def plain : Json → String
  | str s => s
  | v => v.compact

end Switchboard.Json
