/-!
# Reading UTF-8

A decoder that takes one byte at a time. It accepts exactly the well-formed byte sequences of the
Unicode standard (no overlong form, no surrogate, nothing above U+10FFFF) and remembers where the
first ill-formed sequence starts. Places are counted in bytes of the text that is being decoded: a
character that was not written in bytes counts as many as its encoding has.
-/

namespace Switchboard.Text

/-- What the bytes of an unfinished character have told so far. -/
structure Unfinished where
  /-- How many bytes of the text come before its first one. -/
  start : Nat
  /-- How many bytes are still to come. -/
  missing : Nat
  /-- The bits read so far. -/
  value : Nat
  /-- The least byte that may come next. -/
  low : UInt8
  /-- The greatest byte that may come next. -/
  high : UInt8

/-- A decoder between two bytes. -/
structure Decoder where
  /-- The characters read, the latest first. -/
  chars : List Char
  /-- The character that is being read, if one has begun. -/
  unfinished : Option Unfinished
  /-- How many bytes of the text come before the first ill-formed sequence, if there is one. -/
  flaw : Option Nat
  /-- How many bytes the text has so far, ill-formed ones included. -/
  size : Nat

namespace Decoder

/-- Nothing has been read. -/
def start : Decoder := ⟨[], none, none, 0⟩

/-- The first byte of a character. -/
def begin (d : Decoder) (b : UInt8) : Decoder :=
  let i := d.size
  let d := { d with size := i + 1 }
  let more (missing value : Nat) (low high : UInt8) : Decoder :=
    { d with unfinished := some ⟨i, missing, value, low, high⟩ }
  if b < 0x80 then { d with chars := Char.ofNat b.toNat :: d.chars }
  else if b < 0xC2 then { d with flaw := some i }
  else if b < 0xE0 then more 1 (b.toNat - 0xC0) 0x80 0xBF
  else if b = 0xE0 then more 2 0 0xA0 0xBF
  else if b = 0xED then more 2 0xD 0x80 0x9F
  else if b < 0xF0 then more 2 (b.toNat - 0xE0) 0x80 0xBF
  else if b = 0xF0 then more 3 0 0x90 0xBF
  else if b < 0xF4 then more 3 (b.toNat - 0xF0) 0x80 0xBF
  else if b = 0xF4 then more 3 4 0x80 0x8F
  else { d with flaw := some i }

/-- Takes the byte `b`. After a flaw bytes are only counted. -/
def feed (d : Decoder) (b : UInt8) : Decoder :=
  match d.flaw, d.unfinished with
  | some _, _ => { d with size := d.size + 1 }
  | none, none => d.begin b
  | none, some u =>
    let d := { d with size := d.size + 1 }
    if u.low ≤ b && b ≤ u.high then
      let value := u.value * 64 + (b.toNat - 0x80)
      if u.missing ≤ 1 then
        { d with chars := Char.ofNat value :: d.chars, unfinished := none }
      else
        { d with
          unfinished :=
            some { u with missing := u.missing - 1, value, low := 0x80, high := 0xBF } }
    else { d with flaw := some u.start }

/-- Ends the text here: a character that has begun stays unfinished for good. -/
def close (d : Decoder) : Decoder :=
  match d.flaw, d.unfinished with
  | none, some u => { d with flaw := some u.start }
  | _, _ => d

/-- Takes a character that is not written in bytes. -/
def push (d : Decoder) (c : Char) : Decoder :=
  let d := d.close
  { d with chars := c :: d.chars, size := d.size + c.utf8Size }

/-- The text read, or how many of its bytes come before the first ill-formed sequence. -/
def finish (d : Decoder) : Except Nat String :=
  match d.close.flaw with
  | some i => .error i
  | none => .ok (String.ofList d.chars.reverse)

end Decoder

/-- The text that the bytes encode, or how many of them come before the first ill-formed
sequence. -/
def decodeUtf8 (bytes : List UInt8) : Except Nat String :=
  (bytes.foldl Decoder.feed .start).finish

/-- The bytes of a text. -/
def encodeUtf8 (s : String) : List UInt8 := s.toUTF8.data.toList

end Switchboard.Text
