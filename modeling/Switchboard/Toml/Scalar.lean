import Switchboard.Decimal.Binary64
import Switchboard.Text.Numeral
import Switchboard.Toml.Basic

/-!
# Scalars of TOML

Texts in their four spellings, and the scalars without quotes, which are told apart by their
spelling alone: truth values, whole numbers, other numbers, dates and times.

A reader takes characters from the front of a list and returns what it read with the rest.
-/

namespace Switchboard.Toml

open Text (hexDigit?)

/-- What a reader returns: what it read and the rest, or nothing. -/
abbrev Read (α : Type) := Option (α × List Char)

/-! ## Blanks, comments and line ends -/

/-- Space or tab. -/
def isBlank (c : Char) : Bool := c = ' ' || c = '\t'

/-- Leaves out spaces and tabs in front. -/
def skipBlanks (cs : List Char) : List Char := cs.dropWhile isBlank

/-- A character that may stand in a comment. -/
def inComment (c : Char) : Bool := c = '\t' || (0x20 ≤ c.toNat && c.toNat != 0x7F)

/-- Takes the end of a line. -/
def newline? : List Char → Option (List Char)
  | '\n' :: rest => some rest
  | '\r' :: '\n' :: rest => some rest
  | _ => none

/-- Leaves out a comment in front. -/
def skipComment : List Char → List Char
  | '#' :: rest => rest.dropWhile inComment
  | cs => cs

/-- Takes blanks, a comment if there is one, and the end of the line or of the document. -/
def endOfLine? (cs : List Char) : Option (List Char) :=
  match skipComment (skipBlanks cs) with
  | [] => some []
  | rest => newline? rest

/-- Leaves out blanks and line ends, and comments if they may stand here, at most `fuel` lines. -/
def skipLines (comments : Bool) : Nat → List Char → List Char
  | 0, cs => cs
  | fuel + 1, cs =>
    let rest := if comments then skipComment (skipBlanks cs) else skipBlanks cs
    match newline? rest with
    | some rest => skipLines comments fuel rest
    | none => rest

/-! ## Texts -/

/-- The value of hexadecimal digits that follow `acc`. -/
def hexValue? (acc : Nat) : List Char → Option Nat
  | [] => some acc
  | c :: rest => (hexDigit? c).bind fun d => hexValue? (acc * 16 + d) rest

/-- Takes the character whose code is written in `n` hexadecimal digits. -/
def readCode (n : Nat) (cs : List Char) : Read Char :=
  let digits := cs.take n
  if digits.length < n then none
  else
    (hexValue? 0 digits).bind fun code =>
      if code.isValidChar then some (Char.ofNat code, cs.drop n) else none

/-- Takes what follows a backslash. -/
def readEscape : List Char → Read Char
  | 'b' :: rest => some ('\x08', rest)
  | 't' :: rest => some ('\t', rest)
  | 'n' :: rest => some ('\n', rest)
  | 'f' :: rest => some ('\x0c', rest)
  | 'r' :: rest => some ('\r', rest)
  | '"' :: rest => some ('"', rest)
  | '\\' :: rest => some ('\\', rest)
  | 'u' :: rest => readCode 4 rest
  | 'U' :: rest => readCode 8 rest
  | _ => none

/-- Takes the rest of a text in double quotes; `acc` is what has been read, the latest first. -/
def readBasic (acc : List Char) : Nat → List Char → Read String
  | _, '"' :: rest => some (String.ofList acc.reverse, rest)
  | fuel + 1, '\\' :: rest => (readEscape rest).bind fun (c, rest) => readBasic (c :: acc) fuel rest
  | fuel + 1, c :: rest => if inComment c then readBasic (c :: acc) fuel rest else none
  | _, _ => none

/-- Takes the rest of a text in single quotes. -/
def readLiteral (acc : List Char) : List Char → Read String
  | '\'' :: rest => some (String.ofList acc.reverse, rest)
  | c :: rest => if inComment c then readLiteral (c :: acc) rest else none
  | [] => none

/-- Leaves out the line end that may follow three opening quotes. -/
def skipFirstNewline (cs : List Char) : List Char := (newline? cs).getD cs

/-- What a run of quotes means inside a text in triple quotes. -/
inductive QuoteRun where
  /-- Fewer than three: they belong to the text. -/
  | inside (rest : List Char)
  /-- The text ends; of up to five quotes all but three belong to it. -/
  | closing (extra : Nat) (rest : List Char)
  /-- Too many. -/
  | tooLong

/-- Reads a run of the quote `q`. -/
def quoteRun (q : Char) (cs : List Char) : Nat × QuoteRun :=
  let run := (cs.takeWhile (· = q)).length
  let rest := cs.drop run
  (run, if run < 3 then .inside rest else if run ≤ 5 then .closing (run - 3) rest else .tooLong)

/-- Takes the rest of a text in three quotes `q`; with `escapes` a backslash is special. -/
def readMultiline (q : Char) (escapes : Bool) (acc : List Char) : Nat → List Char → Read String
  | 0, _ => none
  | _, [] => none
  | fuel + 1, c :: rest =>
    if c = q then
      match quoteRun q (c :: rest) with
      | (run, .inside rest) => readMultiline q escapes (List.replicate run q ++ acc) fuel rest
      | (_, .closing extra rest) =>
        some (String.ofList (List.replicate extra q ++ acc).reverse, rest)
      | (_, .tooLong) => none
    else if escapes && c = '\\' then
      match newline? (skipBlanks rest) with
      | some rest => readMultiline q escapes acc fuel (skipLines false rest.length rest)
      | none => (readEscape rest).bind fun (e, rest) => readMultiline q escapes (e :: acc) fuel rest
    else
      match newline? (c :: rest) with
      | some rest => readMultiline q escapes ('\n' :: acc) fuel rest
      | none => if inComment c then readMultiline q escapes (c :: acc) fuel rest else none

/-- Takes a text of one line in either kind of quotes. -/
def readQuoted : List Char → Read String
  | '"' :: rest => readBasic [] rest.length rest
  | '\'' :: rest => readLiteral [] rest
  | _ => none

/-- Takes a text in any spelling. -/
def readText : List Char → Read String
  | '"' :: '"' :: '"' :: rest => readMultiline '"' true [] (rest.length + 1) (skipFirstNewline rest)
  | '\'' :: '\'' :: '\'' :: rest =>
    readMultiline '\'' false [] (rest.length + 1) (skipFirstNewline rest)
  | cs => readQuoted cs

/-! ## Keys -/

/-- A character of a key without quotes. -/
def inBareKey (c : Char) : Bool := c.isAlphanum || c = '_' || c = '-'

/-- Takes one part of a key and the blanks around it. -/
def readKeyPart (cs : List Char) : Read String :=
  let cs := skipBlanks cs
  match readQuoted cs with
  | some (s, rest) => some (s, skipBlanks rest)
  | none =>
    let part := cs.takeWhile inBareKey
    if part.isEmpty then none
    else some (String.ofList part, skipBlanks (cs.dropWhile inBareKey))

/-- A key may not have so many parts. -/
def depthLimit : Nat := 80

/-- Takes a key of at most `fuel` parts. -/
def readKeyParts : Nat → List Char → Read (List String)
  | 0, _ => none
  | fuel + 1, cs =>
    (readKeyPart cs).bind fun (part, rest) =>
      match rest with
      | '.' :: rest => (readKeyParts fuel rest).map fun (parts, rest) => (part :: parts, rest)
      | _ => some ([part], rest)

/-- Takes a key. -/
def readKey : List Char → Read (List String) := readKeyParts (depthLimit - 1)

/-! ## Scalars without quotes -/

/-- The digits of a numeral in which single underscores may stand between digits. -/
def digitsOf? (isDigit : Char → Bool) (cs : List Char) : Option (List Char) :=
  let rec go : Bool → List Char → Option (List Char)
    | afterDigit, [] => if afterDigit then some [] else none
    | afterDigit, c :: rest =>
      if isDigit c then (go true rest).map (c :: ·)
      else if c = '_' && afterDigit then go false rest
      else none
  match cs with
  | c :: _ => if isDigit c then go false cs else none
  | [] => none

/-- The value of digits of a base. -/
def valueOf (base : Nat) (digits : List Char) : Nat :=
  digits.foldl (fun acc c => acc * base + (hexDigit? c).getD 0) 0

/-- Takes a sign in front: whether it is a minus, and whether there is one. -/
def splitSign : List Char → Bool × Bool × List Char
  | '-' :: rest => (true, true, rest)
  | '+' :: rest => (false, true, rest)
  | cs => (false, false, cs)

/-- Decimal digits without a superfluous zero in front. -/
def decimalDigits? (cs : List Char) : Option (List Char) :=
  (digitsOf? Char.isDigit cs).bind fun ds =>
    if ds.length > 1 && ds.head? = some '0' then none else some ds

/-- A whole number of 64 bits. -/
def within64 (n : Int) : Option Toml := if FitsInt64 n then some (int n) else none

/-- The whole number that is written, in one of four bases. -/
def readInt? : List Char → Option Toml
  | '0' :: 'x' :: cs =>
    (digitsOf? (fun c => (hexDigit? c).isSome) cs).bind fun ds => within64 (valueOf 16 ds)
  | '0' :: 'o' :: cs =>
    (digitsOf? (fun c => '0' ≤ c && c ≤ '7') cs).bind fun ds => within64 (valueOf 8 ds)
  | '0' :: 'b' :: cs =>
    (digitsOf? (fun c => c = '0' || c = '1') cs).bind fun ds => within64 (valueOf 2 ds)
  | cs =>
    let (negative, _, cs) := splitSign cs
    (decimalDigits? cs).bind fun ds =>
      let n : Int := valueOf 10 ds
      within64 (if negative then -n else n)

/-- The exponent of a number: nothing, or digits behind a mark and a sign. -/
def readExponent? : List Char → Option Int
  | [] => some 0
  | c :: cs =>
    if c = 'e' || c = 'E' then
      let (negative, _, cs) := splitSign cs
      (digitsOf? Char.isDigit cs).map fun ds =>
        let n : Int := valueOf 10 ds
        if negative then -n else n
    else none

/-- The number with a point or an exponent that is written. A positive one must not be too large. -/
def readFloat? (token : List Char) : Option Toml :=
  let (negative, _, cs) := splitSign token
  let written := float (String.ofList token)
  if cs = ['i', 'n', 'f'] || cs = ['n', 'a', 'n'] then some written
  else
    let inMantissa (c : Char) : Bool := c.isDigit || c = '_'
    let whole := cs.takeWhile inMantissa
    let rest := cs.dropWhile inMantissa
    (decimalDigits? whole).bind fun ws =>
      let parts : Option (List Char × List Char) :=
        match rest with
        | '.' :: rest =>
          (digitsOf? Char.isDigit (rest.takeWhile inMantissa)).map fun fs =>
            (fs, rest.dropWhile inMantissa)
        | rest => if rest.isEmpty then none else some ([], rest)
      parts.bind fun (fs, tail) =>
        (readExponent? tail).bind fun e =>
          let m := valueOf 10 (ws ++ fs)
          if negative || (Binary64.ofDecimal? false m (e - fs.length)).isSome then some written
          else none

/-- The value of exactly `n` digits in front. -/
def fixedDigits (n : Nat) (cs : List Char) : Read Nat :=
  let ds := cs.take n
  if ds.length = n && ds.all Char.isDigit then some (valueOf 10 ds, cs.drop n) else none

/-- How many days a month has. -/
def daysInMonth (year month : Nat) : Nat :=
  if month = 2 then
    if year % 4 = 0 && (year % 100 != 0 || year % 400 = 0) then 29 else 28
  else if month = 4 || month = 6 || month = 9 || month = 11 then 30
  else 31

/-- Takes a date. -/
def skipDate? (cs : List Char) : Option (List Char) := do
  let (year, cs) ← fixedDigits 4 cs
  let '-' :: cs := cs | none
  let (month, cs) ← fixedDigits 2 cs
  let '-' :: cs := cs | none
  let (day, cs) ← fixedDigits 2 cs
  if 1 ≤ month && month ≤ 12 && 1 ≤ day && day ≤ daysInMonth year month then some cs
  else none

/-- Takes a time of day. -/
def skipTime? (cs : List Char) : Option (List Char) := do
  let (hour, cs) ← fixedDigits 2 cs
  let ':' :: cs := cs | none
  let (minute, cs) ← fixedDigits 2 cs
  let ':' :: cs := cs | none
  let (second, cs) ← fixedDigits 2 cs
  guard (hour ≤ 23 && minute ≤ 59 && second ≤ 60)
  match cs with
  | '.' :: fraction =>
    if (fraction.takeWhile Char.isDigit).isEmpty then none
    else some (fraction.dropWhile Char.isDigit)
  | _ => some cs

/-- The distance from universal time, or nothing at all. -/
def isOffset (cs : List Char) : Bool :=
  let hours (cs : List Char) : Bool :=
    match fixedDigits 2 cs with
    | some (hour, ':' :: cs) =>
      match fixedDigits 2 cs with
      | some (minute, []) => hour ≤ 23 && minute ≤ 59
      | _ => false
    | _ => false
  match cs with
  | [] => true
  | ['Z'] => true
  | ['z'] => true
  | '+' :: cs => hours cs
  | '-' :: cs => hours cs
  | _ => false

/-- The characters are a date, a time of day, or a date and a time with or without an offset. -/
def isDatetime (cs : List Char) : Bool :=
  match skipDate? cs with
  | some [] => true
  | some (c :: rest) =>
    (c = 'T' || c = 't' || c = ' ') && (skipTime? rest).any isOffset
  | none => skipTime? cs = some []

/-- A character of a scalar without quotes. -/
def inToken (c : Char) : Bool :=
  c.isAlphanum || c = '+' || c = '-' || c = '_' || c = '.' || c = ':'

/-- Takes the characters of a scalar without quotes; a date may be followed by a space and a
time. -/
def readToken (cs : List Char) : List Char × List Char :=
  let token := cs.takeWhile inToken
  let rest := cs.dropWhile inToken
  match skipDate? token, rest with
  | some [], ' ' :: c :: more =>
    if c.isDigit then (token ++ ' ' :: (c :: more).takeWhile inToken, (c :: more).dropWhile inToken)
    else (token, rest)
  | _, _ => (token, rest)

/-- The scalar that is written without quotes. -/
def ofToken? (token : List Char) : Option Toml :=
  if token = "true".toList then some (bool true)
  else if token = "false".toList then some (bool false)
  else if isDatetime token then some (datetime (String.ofList token))
  else (readInt? token).or (readFloat? token)

/-- Takes a scalar. -/
def readScalar (cs : List Char) : Read Toml :=
  match cs with
  | '"' :: _ | '\'' :: _ => (readText cs).map fun (s, rest) => (text s, rest)
  | _ =>
    let (token, rest) := readToken cs
    (ofToken? token).map fun v => (v, rest)

end Switchboard.Toml
