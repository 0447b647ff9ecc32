import Switchboard.Json.Basic
import Switchboard.Text.Utf8
import Switchboard.Word

/-!
# Reading JSON

The reader takes one byte at a time, so reading a text in two parts is reading the whole of it
(`run_append`), nesting needs no recursion, and the place of an error is a count of bytes.

A `State` is what is being read (`Phase`) together with the lists and objects that wait for the
value being read (`Frame`). A phase carries the part of the innermost list or object that is
complete, so a state never describes an impossible situation.
-/

namespace Switchboard.Json

open Text

/-! ## Errors -/

/-- What is wrong with a text that is not JSON. -/
inductive Flaw where
  /-- The text ends where a value should stand. -/
  | endInValue
  /-- The text ends inside a list. -/
  | endInList
  /-- The text ends inside an object. -/
  | endInObject
  /-- The text ends inside a string. -/
  | endInString
  /-- No colon follows a member's name. -/
  | expectedColon
  /-- Neither a comma nor a bracket follows an element. -/
  | expectedListSeparator
  /-- Neither a comma nor a brace follows a member. -/
  | expectedObjectSeparator
  /-- A word begins like `true`, `false` or `null` and goes on otherwise. -/
  | expectedWord
  /-- No value begins here. -/
  | expectedValue
  /-- An escape that does not exist. -/
  | invalidEscape
  /-- A number that breaks off or has a superfluous zero. -/
  | invalidNumber
  /-- A number too large for its format. -/
  | numberOutOfRange
  /-- A string that is not UTF-8. -/
  | invalidCodePoint
  /-- A control character inside a string. -/
  | controlCharacter
  /-- A member's name is not a string. -/
  | nameNotString
  /-- A surrogate without its other half. -/
  | loneSurrogate
  /-- A comma before a closing bracket. -/
  | trailingComma
  /-- Something follows the value. -/
  | trailingCharacters
  /-- The second half of a surrogate pair is missing. -/
  | endOfHexEscape
  /-- Too many open brackets. -/
  | tooDeep
deriving DecidableEq

/-- The wording of a flaw. -/
def Flaw.text : Flaw → String
  | endInValue => "EOF while parsing a value"
  | endInList => "EOF while parsing a list"
  | endInObject => "EOF while parsing an object"
  | endInString => "EOF while parsing a string"
  | expectedColon => "expected `:`"
  | expectedListSeparator => "expected `,` or `]`"
  | expectedObjectSeparator => "expected `,` or `\x7d`"
  | expectedWord => "expected ident"
  | expectedValue => "expected value"
  | invalidEscape => "invalid escape"
  | invalidNumber => "invalid number"
  | numberOutOfRange => "number out of range"
  | invalidCodePoint => "invalid unicode code point"
  | controlCharacter => "control character (\\u0000-\\u001F) found while parsing a string"
  | nameNotString => "key must be a string"
  | loneSurrogate => "lone leading surrogate in hex escape"
  | trailingComma => "trailing comma"
  | trailingCharacters => "trailing characters"
  | endOfHexEscape => "unexpected end of hex escape"
  | tooDeep => "recursion limit exceeded"

/-- A flaw and its place. -/
structure SyntaxError where
  /-- What is wrong. -/
  flaw : Flaw
  /-- The line, counted from 1. -/
  line : Nat
  /-- How many bytes of the line the reader had taken. -/
  column : Nat
deriving DecidableEq

/-- The wording of a syntax error. -/
def SyntaxError.message (e : SyntaxError) : String :=
  e.flaw.text ++ " at line " ++ toString e.line ++ " column " ++ toString e.column

/-- Line and column after the first `n` bytes, counting on from a line and a column. -/
def place (line column : Nat) : Nat → List UInt8 → Nat × Nat
  | 0, _ => (line, column)
  | _, [] => (line, column)
  | n + 1, b :: rest =>
    if b = 0x0A then place (line + 1) 0 n rest else place line (column + 1) n rest

/-! ## Numbers -/

/-- Which part of a number was read last. -/
inductive NumberPart where
  /-- The minus sign. -/
  | minus
  /-- A zero in front. -/
  | zero
  /-- A digit before the point. -/
  | whole
  /-- The point. -/
  | point
  /-- A digit after the point. -/
  | fraction
  /-- The letter of the exponent. -/
  | mark
  /-- The sign of the exponent. -/
  | sign
  /-- A digit of the exponent. -/
  | power
deriving DecidableEq

/-- A number that is being read. -/
structure Numeral where
  /-- The part read last. -/
  part : NumberPart
  /-- A minus sign stands in front. -/
  negative : Bool
  /-- The digits before and after the point as one whole number, as far as they fit. -/
  significand : UInt64
  /-- The power of ten of its last digit. -/
  shift : Int
  /-- A digit has not fitted, since the beginning or since the point. -/
  full : Bool
  /-- A point or an exponent has been read. -/
  fractional : Bool
  /-- The exponent has a minus sign. -/
  powerNegative : Bool
  /-- The digits of the exponent. -/
  power : Nat

/-- Exponents above this one are not counted further. -/
def greatestPower : Nat := 2147483647

/-- The number that a complete numeral denotes: a whole number that fits a word, or the number that
the significand and the power of ten are read as. -/
def Numeral.value? (n : Numeral) : Option Json :=
  let whole : Int := if n.negative then -(n.significand.toNat : Int) else n.significand.toNat
  let plain := !n.fractional && !n.full && !(n.negative && n.significand = 0)
  if plain && (FitsInt64 whole || FitsUInt64 whole) then some (int whole)
  else
    let power : Int := if n.powerNegative then -(n.power : Int) else n.power
    (Binary64.ofScaled? n.negative n.significand.toNat (power + n.shift)).map float

/-- The value of a byte that is a decimal digit. -/
def digit? (b : UInt8) : Option Nat :=
  if 0x30 ≤ b && b ≤ 0x39 then some (b.toNat - 48) else none

/-- What a byte does to a number that is being read. -/
inductive NumeralStep where
  /-- The byte belongs to the number. -/
  | more (n : Numeral)
  /-- The number ended before the byte. -/
  | ended
  /-- The byte makes the number wrong. -/
  | wrong (f : Flaw)

/-- The significand with one digit more, if that fits. -/
def Numeral.append? (n : Numeral) (d : Nat) : Option UInt64 :=
  uint64? (n.significand.toNat * 10 + d : Nat)

/-- A digit before the point. Behind the first that does not fit, none is looked at. -/
def Numeral.addWhole (n : Numeral) (d : Nat) : Numeral :=
  match if n.full then none else n.append? d with
  | some significand => { n with significand }
  | none => { n with full := true, shift := n.shift + 1 }

/-- A digit after the point. Behind the first that does not fit, none is looked at. -/
def Numeral.addPlace (n : Numeral) (d : Nat) : Numeral :=
  match if n.full then none else n.append? d with
  | some significand => { n with part := .fraction, significand, shift := n.shift - 1 }
  | none => { n with part := .fraction, full := true }

/-- A byte after a part behind which a point or an exponent may begin. Behind the point digits are
looked at again. -/
def Numeral.extend (n : Numeral) (pointAllowed : Bool) (b : UInt8) : NumeralStep :=
  if pointAllowed && b = 0x2E then
    .more { n with part := .point, full := false, fractional := true }
  else if b = 0x65 || b = 0x45 then .more { n with part := .mark, fractional := true }
  else .ended

/-- A digit of the exponent. An exponent too large to count makes the number too large, or zero. -/
def Numeral.addPower (n : Numeral) (d : Nat) : NumeralStep :=
  let power := n.power * 10 + d
  if power ≤ greatestPower then .more { n with part := .power, power }
  else if !n.powerNegative && n.significand != 0 then .wrong .numberOutOfRange
  else .more { n with part := .power, significand := 0, shift := 0, power := 0 }

/-- The next byte after a number has begun. -/
def Numeral.step (n : Numeral) (b : UInt8) : NumeralStep :=
  match n.part, digit? b with
  | .minus, some d =>
    .more { n with part := if d = 0 then .zero else .whole, significand := .ofNat d }
  | .minus, none => .wrong .invalidNumber
  | .zero, some _ => .wrong .invalidNumber
  | .zero, none => n.extend true b
  | .whole, some d => .more (n.addWhole d)
  | .whole, none => n.extend true b
  | .point, some d => .more (n.addPlace d)
  | .point, none => .wrong .invalidNumber
  | .fraction, some d => .more (n.addPlace d)
  | .fraction, none => n.extend false b
  | .mark, some d => n.addPower d
  | .mark, none =>
    if b = 0x2B then .more { n with part := .sign }
    else if b = 0x2D then .more { n with part := .sign, powerNegative := true }
    else .wrong .invalidNumber
  | .sign, some d => n.addPower d
  | .sign, none => .wrong .invalidNumber
  | .power, some d => n.addPower d
  | .power, none => .ended

/-- The number may end after the part read last. -/
def Numeral.complete (n : Numeral) : Bool :=
  match n.part with
  | .zero | .whole | .fraction | .power => true
  | .minus | .point | .mark | .sign => false

/-! ## Strings -/

/-- Where the reader stands inside an escape. -/
inductive Escape where
  /-- In no escape. -/
  | outside
  /-- After the backslash. -/
  | letter
  /-- Inside four hexadecimal digits, the latest first, after the first half of a pair if there is
  one. -/
  | hex (digits : List UInt8) (high : Option Nat)
  /-- After the first half of a pair: a backslash has to follow. -/
  | pairBackslash (high : Nat)
  /-- After the first half of a pair and a backslash: the letter u has to follow. -/
  | pairLetter (high : Nat)

/-- A string that is being read. -/
structure Quoted where
  /-- The characters so far. -/
  decoder : Decoder
  /-- The escape that is being read. -/
  escape : Escape

/-- What a byte does to a string that is being read. -/
inductive QuotedStep where
  /-- The byte belongs to the string. -/
  | more (q : Quoted)
  /-- The byte is the closing quote. -/
  | closed (s : String)
  /-- The string is wrong after `taken` bytes of the text. -/
  | wrong (f : Flaw) (taken : Nat)

/-- The value of a hexadecimal digit. -/
def hexDigit? (b : UInt8) : Option Nat :=
  if 0x30 ≤ b && b ≤ 0x39 then some (b.toNat - 48)
  else if 0x61 ≤ b && b ≤ 0x66 then some (b.toNat - 87)
  else if 0x41 ≤ b && b ≤ 0x46 then some (b.toNat - 55)
  else none

/-- The value of hexadecimal digits, the latest first. -/
def hexValue? : List UInt8 → Option Nat
  | [] => some 0
  | b :: rest => (hexValue? rest).bind fun n => (hexDigit? b).map fun d => n * 16 + d

/-- The character of an escape of one letter. -/
def escaped? (b : UInt8) : Option Char :=
  if b = 0x22 then some '"'
  else if b = 0x5C then some '\\'
  else if b = 0x2F then some '/'
  else if b = 0x62 then some '\x08'
  else if b = 0x66 then some '\x0c'
  else if b = 0x6E then some '\n'
  else if b = 0x72 then some '\r'
  else if b = 0x74 then some '\t'
  else none

/-- The four digits of an escape are complete: `code` follows the first half of a pair, or stands
alone. -/
def Quoted.addCode (q : Quoted) (taken code : Nat) (high : Option Nat) : QuotedStep :=
  let low := 0xDC00 ≤ code && code ≤ 0xDFFF
  match high with
  | some h =>
    if low then
      .more ⟨q.decoder.push (Char.ofNat (0x10000 + (h - 0xD800) * 0x400 + (code - 0xDC00))),
        .outside⟩
    else .wrong .loneSurrogate taken
  | none =>
    if low then .wrong .loneSurrogate taken
    else if 0xD800 ≤ code && code ≤ 0xDBFF then .more { q with escape := .pairBackslash code }
    else .more ⟨q.decoder.push (Char.ofNat code), .outside⟩

/-- The next byte, at position `i`, after the opening quote. The place of an ill-formed sequence is
counted back from the closing quote, over as many bytes as the text has from that sequence on:
without an escape behind it this is one byte past its start. -/
def Quoted.step (q : Quoted) (i : Nat) (b : UInt8) : QuotedStep :=
  match q.escape with
  | .outside =>
    if b = 0x22 then
      match q.decoder.finish with
      | .ok s => .closed s
      | .error sound => .wrong .invalidCodePoint (i + 1 - (q.decoder.size - sound))
    else if b = 0x5C then .more ⟨q.decoder.close, .letter⟩
    else if b < 0x20 then .wrong .controlCharacter (i + 1)
    else .more { q with decoder := q.decoder.feed b }
  | .letter =>
    if b = 0x75 then .more { q with escape := .hex [] none }
    else
      match escaped? b with
      | some c => .more ⟨q.decoder.push c, .outside⟩
      | none => .wrong .invalidEscape (i + 1)
  | .hex digits high =>
    let digits := b :: digits
    if digits.length < 4 then .more { q with escape := .hex digits high }
    else
      match hexValue? digits with
      | some code => q.addCode (i + 1) code high
      | none => .wrong .invalidEscape (i + 1)
  | .pairBackslash high =>
    if b = 0x5C then .more { q with escape := .pairLetter high }
    else .wrong .endOfHexEscape (i + 1)
  | .pairLetter high =>
    if b = 0x75 then .more { q with escape := .hex [] (some high) }
    else .wrong .endOfHexEscape (i + 1)

/-! ## Values -/

/-- A list or object that waits for the value being read. -/
inductive Frame where
  /-- A list with its elements so far, the latest first. -/
  | list (before : List Json)
  /-- An object with its members so far and the name of the member that is being read. -/
  | member (before : List (String × Json)) (name : String)

/-- What is being read. -/
inductive Phase where
  /-- A value has to begin. -/
  | value
  /-- A list has just been opened. -/
  | firstElement
  /-- A comma has been read in a list. -/
  | nextElement (before : List Json)
  /-- An element has been read. -/
  | afterElement (before : List Json)
  /-- An object has just been opened. -/
  | firstName
  /-- A comma has been read in an object. -/
  | nextName (before : List (String × Json))
  /-- The name of a member. -/
  | name (before : List (String × Json)) (q : Quoted)
  /-- The name of a member has been read. -/
  | afterName (before : List (String × Json)) (name : String)
  /-- A member has been read. -/
  | afterMember (before : List (String × Json))
  /-- The rest of a word that stands for a value. -/
  | word (rest : List UInt8) (v : Json)
  /-- A number. -/
  | number (n : Numeral)
  /-- A string. -/
  | string (q : Quoted)
  /-- The whole value has been read. -/
  | done (v : Json)

/-- The reader between two bytes. -/
structure State where
  /-- What is being read. -/
  phase : Phase
  /-- What waits for it, the innermost first. -/
  waiting : List Frame

/-- A flaw, and how many bytes had been taken when it was found. -/
structure Failure where
  /-- What is wrong. -/
  flaw : Flaw
  /-- The bytes taken. -/
  taken : Nat

/-- So many brackets may not be open at once. -/
def depthLimit : Nat := 128

/-- Nothing has been read. -/
def State.start : State := ⟨.value, []⟩

/-- Blank between tokens. -/
def isSpace (b : UInt8) : Bool := b = 0x20 || b = 0x09 || b = 0x0A || b = 0x0D

/-- A value is complete: it goes to what waited for it. -/
def State.deliver (v : Json) : List Frame → State
  | [] => ⟨.done v, []⟩
  | .list before :: rest => ⟨.afterElement (v :: before), rest⟩
  | .member before name :: rest => ⟨.afterMember (Assoc.insert name v before), rest⟩

/-- The first byte of a value, at position `i`, for which `waiting` waits. -/
def State.beginValue (waiting : List Frame) (i : Nat) (b : UInt8) : Except Failure State :=
  let numeral (part : NumberPart) (negative : Bool) (significand : UInt64) : Except Failure State :=
    .ok ⟨.number ⟨part, negative, significand, 0, false, false, false, 0⟩, waiting⟩
  let opened (phase : Phase) : Except Failure State :=
    if depthLimit ≤ waiting.length + 1 then .error ⟨.tooDeep, i + 1⟩
    else .ok ⟨phase, waiting⟩
  if b = 0x22 then .ok ⟨.string ⟨.start, .outside⟩, waiting⟩
  else if b = 0x5B then opened .firstElement
  else if b = 0x7B then opened .firstName
  else if b = 0x74 then .ok ⟨.word [0x72, 0x75, 0x65] (bool true), waiting⟩
  else if b = 0x66 then .ok ⟨.word [0x61, 0x6C, 0x73, 0x65] (bool false), waiting⟩
  else if b = 0x6E then .ok ⟨.word [0x75, 0x6C, 0x6C] null, waiting⟩
  else if b = 0x2D then numeral .minus true 0
  else
    match digit? b with
    | some d => numeral (if d = 0 then .zero else .whole) false (.ofNat d)
    | none => .error ⟨.expectedValue, i + 1⟩

/-- A byte, at position `i`, outside words, numbers and strings. -/
def State.between (s : State) (i : Nat) (b : UInt8) : Except Failure State :=
  let wrong (f : Flaw) : Except Failure State := .error ⟨f, i + 1⟩
  let quoted : Quoted := ⟨.start, .outside⟩
  if isSpace b then .ok s
  else
    match s.phase with
    | .value => State.beginValue s.waiting i b
    | .firstElement =>
      if b = 0x5D then .ok (.deliver (arr []) s.waiting)
      else State.beginValue (.list [] :: s.waiting) i b
    | .nextElement before =>
      if b = 0x5D then wrong .trailingComma
      else State.beginValue (.list before :: s.waiting) i b
    | .afterElement before =>
      if b = 0x2C then .ok ⟨.nextElement before, s.waiting⟩
      else if b = 0x5D then .ok (.deliver (arr before.reverse) s.waiting)
      else wrong .expectedListSeparator
    | .firstName =>
      if b = 0x22 then .ok ⟨.name [] quoted, s.waiting⟩
      else if b = 0x7D then .ok (.deliver (obj []) s.waiting)
      else wrong .nameNotString
    | .nextName before =>
      if b = 0x22 then .ok ⟨.name before quoted, s.waiting⟩
      else if b = 0x7D then wrong .trailingComma
      else wrong .nameNotString
    | .afterName before name =>
      if b = 0x3A then .ok ⟨.value, .member before name :: s.waiting⟩ else wrong .expectedColon
    | .afterMember before =>
      if b = 0x2C then .ok ⟨.nextName before, s.waiting⟩
      else if b = 0x7D then .ok (.deliver (obj before) s.waiting)
      else wrong .expectedObjectSeparator
    | .done _ => wrong .trailingCharacters
    | .name _ _ | .word _ _ | .number _ | .string _ => .ok s

/-- The next byte, at position `i`. -/
def State.step (s : State) (i : Nat) (b : UInt8) : Except Failure State :=
  match s.phase with
  | .word [] v => (State.deliver v s.waiting).between i b
  | .word (e :: rest) v =>
    if b = e then
      match rest with
      | [] => .ok (.deliver v s.waiting)
      | _ => .ok { s with phase := .word rest v }
    else .error ⟨.expectedWord, i + 1⟩
  | .number n =>
    match n.step b with
    | .more n => .ok { s with phase := .number n }
    | .wrong f => .error ⟨f, i + 1⟩
    | .ended =>
      match n.value? with
      | some v => (State.deliver v s.waiting).between i b
      | none => .error ⟨.numberOutOfRange, i⟩
  | .string q =>
    match q.step i b with
    | .more q => .ok { s with phase := .string q }
    | .closed t => .ok (.deliver (str t) s.waiting)
    | .wrong f taken => .error ⟨f, taken⟩
  | .name before q =>
    match q.step i b with
    | .more q => .ok { s with phase := .name before q }
    | .closed t => .ok { s with phase := .afterName before t }
    | .wrong f taken => .error ⟨f, taken⟩
  | _ => s.between i b

/-- Reads bytes, the first of which stands at position `i`. -/
def State.run (s : State) (i : Nat) : List UInt8 → Except Failure State
  | [] => .ok s
  | b :: rest =>
    match s.step i b with
    | .ok s => s.run (i + 1) rest
    | .error e => .error e

/-- The value read when the text ends after `taken` bytes. -/
def State.finish (s : State) (taken : Nat) : Except Failure Json :=
  let wrong (f : Flaw) : Except Failure Json := .error ⟨f, taken⟩
  match s.phase, s.waiting with
  | .done v, _ => .ok v
  | .number n, waiting =>
    if n.complete then
      match n.value?, waiting with
      | none, _ => wrong .numberOutOfRange
      | some v, [] => .ok v
      | some _, .list _ :: _ => wrong .endInList
      | some _, .member _ _ :: _ => wrong .endInObject
    else wrong .endInValue
  | .value, _ | .nextElement _, _ | .nextName _, _ | .word _ _, _ => wrong .endInValue
  | .firstElement, _ | .afterElement _, _ => wrong .endInList
  | .firstName, _ | .afterName _ _, _ | .afterMember _, _ => wrong .endInObject
  | .name _ _, _ | .string _, _ => wrong .endInString

/-- Reading in two parts is reading the whole. -/
theorem State.run_append (s : State) (i : Nat) (as bs : List UInt8) :
    s.run i (as ++ bs) = (s.run i as).bind fun s => s.run (i + as.length) bs := by
  induction as generalizing s i with
  | nil => rfl
  | cons a as ih =>
    simp only [List.cons_append, State.run, List.length_cons]
    cases s.step i a with
    | ok s =>
      simp only [ih]
      rw [Nat.add_assoc, Nat.add_comm 1]
    | error e => rfl

/-! ## Whole texts -/

/-- The value that bytes denote, or the flaw and how many bytes had been taken. -/
def readBytes (bytes : List UInt8) : Except Failure Json :=
  match State.start.run 0 bytes with
  | .ok s => s.finish bytes.length
  | .error e => .error e

/-- The value that bytes denote, or what is wrong and where. -/
def ofBytes (bytes : List UInt8) : Except SyntaxError Json :=
  match readBytes bytes with
  | .ok v => .ok v
  | .error e =>
    let (line, column) := place 1 0 e.taken bytes
    .error ⟨e.flaw, line, column⟩

/-- The value that a text denotes, or what is wrong and where. -/
def ofText (s : String) : Except SyntaxError Json := ofBytes (encodeUtf8 s)

end Switchboard.Json
