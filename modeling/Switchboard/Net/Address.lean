import Switchboard.Text.Numeral

/-!
# IP addresses

Addresses of both families, read from and written as text. An address of sixteen bytes is eight
groups; its text is the canonical one: small hexadecimal digits without leading zeros, the first
longest run of at least two zero groups written as `::`, and mapped addresses with their last four
bytes in dots.
-/

namespace Switchboard

/-- An IP address. -/
inductive Address where
  /-- Four bytes. -/
  | v4 (a b c d : Fin 256)
  /-- Eight groups of sixteen bits. -/
  | v6 (groups : List (Fin 65536)) (eight : groups.length = 8)
deriving DecidableEq

namespace Address

open Text (hexDigit?)

/-- The address of this machine itself. -/
def localhost : Address := v4 127 0 0 1

/-! ## Reading -/

/-- The value of decimal digits: one to three, no superfluous zero, below 256. -/
def byte? (cs : List Char) : Option (Fin 256) :=
  if cs.isEmpty || cs.length > 3 || !cs.all Char.isDigit ||
    (cs.length > 1 && cs.head? = some '0') then none
  else
    let n := cs.foldl (fun acc c => acc * 10 + (c.toNat - 48)) 0
    if h : n < 256 then some ⟨n, h⟩ else none

/-- Cuts a list at every `sep`. -/
def splitAt (sep : Char) : List Char → List (List Char)
  | [] => [[]]
  | c :: rest =>
    if c = sep then [] :: splitAt sep rest
    else
      match splitAt sep rest with
      | part :: parts => (c :: part) :: parts
      | [] => [[c]]

/-- Four bytes with dots between them. -/
def dotted? (cs : List Char) : Option (Fin 256 × Fin 256 × Fin 256 × Fin 256) :=
  match splitAt '.' cs with
  | [a, b, c, d] => do return (← byte? a, ← byte? b, ← byte? c, ← byte? d)
  | _ => none

/-- The value of a group: one to four hexadecimal digits. -/
def group? (cs : List Char) : Option (Fin 65536) :=
  if cs.isEmpty || cs.length > 4 then none
  else
    (cs.foldl (fun acc c => acc.bind fun n => (hexDigit? c).map fun d => n * 16 + d) (some 0)).bind
      fun n => if h : n < 65536 then some ⟨n, h⟩ else none

/-- The group of two bytes. -/
def ofBytes (a b : Fin 256) : Fin 65536 := ⟨a.val * 256 + b.val, by omega⟩

/-- The groups of parts between colons; the last part may be four bytes with dots. -/
def groups? : List (List Char) → Option (List (Fin 65536))
  | [] => some []
  | [part] =>
    match group? part with
    | some g => some [g]
    | none => (dotted? part).map fun (a, b, c, d) => [ofBytes a b, ofBytes c d]
  | part :: rest => do return (← group? part) :: (← groups? rest)

/-- The text on both sides of the first double colon, if there is one. -/
def splitDoubleColon : List Char → List Char × Option (List Char)
  | ':' :: ':' :: rest => ([], some rest)
  | [] => ([], none)
  | c :: rest => let (before, after) := splitDoubleColon rest; (c :: before, after)

/-- The groups of one side of a double colon, which may be empty. -/
def side? (cs : List Char) : Option (List (Fin 65536)) :=
  if cs.isEmpty then some [] else groups? (splitAt ':' cs)

/-- The address of the groups in front of a double colon and behind it; it stands for at least one
zero group. -/
def fill? (front back : List (Fin 65536)) : Option Address :=
  if h : front.length + back.length < 8 then
    some (v6 (front ++ List.replicate (8 - (front.length + back.length)) 0 ++ back)
      (by simp; omega))
  else none

/-- Eight groups, of which a double colon may stand for some that are zero. In front of a double
colon no bytes with dots may stand. -/
def v6? (cs : List Char) : Option Address :=
  match splitDoubleColon cs with
  | (all, none) =>
    (groups? (splitAt ':' all)).bind fun gs => if h : gs.length = 8 then some (v6 gs h) else none
  | (before, some after) =>
    if before.contains '.' then none
    else
      (side? before).bind fun front => (side? after).bind fun back => fill? front back

/-- The address that a text denotes. -/
def ofText? (s : String) : Option Address :=
  let cs := s.toList
  match dotted? cs with
  | some (a, b, c, d) => some (v4 a b c d)
  | none => v6? cs

/-! ## Writing -/

/-- A number in small hexadecimal digits. -/
def hexText (n : Nat) : String := String.ofList (Nat.toDigits 16 n)

/-- Four bytes with dots between them. -/
def dottedText (a b c d : Nat) : String :=
  toString a ++ "." ++ toString b ++ "." ++ toString c ++ "." ++ toString d

/-- Groups with colons between them. -/
def colonText (groups : List (Fin 65536)) : String :=
  ":".intercalate (groups.map fun g => hexText g.val)

/-- Where the first longest run of zeros starts and how long it is; `place` is that of the first
group. -/
def longestZeros (place : Nat) : List (Fin 65536) → Nat × Nat
  | [] => (place, 0)
  | g :: rest =>
    let run := ((g :: rest).takeWhile (· = 0)).length
    let (laterPlace, laterRun) := longestZeros (place + 1) rest
    if laterRun > run then (laterPlace, laterRun) else (place, run)

/-- The text of an address. -/
def text : Address → String
  | v4 a b c d => dottedText a b c d
  | v6 [0, 0, 0, 0, 0, 0xffff, g, h] _ =>
    "::ffff:" ++ dottedText (g.val / 256) (g.val % 256) (h.val / 256) (h.val % 256)
  | v6 groups _ =>
    let (start, run) := longestZeros 0 groups
    if run < 2 then colonText groups
    else colonText (groups.take start) ++ "::" ++ colonText (groups.drop (start + run))

end Address

end Switchboard
