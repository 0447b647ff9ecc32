import Switchboard.Word

/-!
# Whole numbers in text

An unsigned numeral is an optional `+` and at least one digit; a signed one may begin with `-` as
well. Blanks are not skipped and other digits than `0` to `9` are not accepted.
-/

namespace Switchboard.Text

/-- The value of a hexadecimal digit. -/
def hexDigit? (c : Char) : Option Nat :=
  if '0' ≤ c && c ≤ '9' then some (c.toNat - 48)
  else if 'a' ≤ c && c ≤ 'f' then some (c.toNat - 87)
  else if 'A' ≤ c && c ≤ 'F' then some (c.toNat - 55)
  else none

/-- The value of a digit `0` to `9`. -/
def digit? (c : Char) : Option Nat :=
  if '0' ≤ c && c ≤ '9' then some (c.toNat - 48) else none

/-- The value of digits that follow `acc`; nothing when a character is not a digit. -/
def digits? (acc : Nat) : List Char → Option Nat
  | [] => some acc
  | c :: rest => (digit? c).bind fun d => digits? (acc * 10 + d) rest

/-- The value of at least one digit. -/
def numeral? : List Char → Option Nat
  | [] => none
  | cs => digits? 0 cs

/-- A whole number with an optional sign. -/
def signedNumeral? : List Char → Option Int
  | '-' :: cs => (numeral? cs).map fun n => -(n : Int)
  | '+' :: cs => (numeral? cs).map Int.ofNat
  | cs => (numeral? cs).map Int.ofNat

/-- A natural number with an optional `+`. -/
def unsignedNumeral? : List Char → Option Nat
  | '+' :: cs => numeral? cs
  | cs => numeral? cs

/-- The text is a signed numeral of a 64-bit integer. -/
def readInt64? (s : String) : Option Int64 :=
  (signedNumeral? s.toList).bind int64?

/-- The text is an unsigned numeral of 64 bits. -/
def readUInt64? (s : String) : Option UInt64 :=
  (unsignedNumeral? s.toList).bind fun n => uint64? n

/-- The text is an unsigned numeral of 16 bits. -/
def readUInt16? (s : String) : Option UInt16 :=
  (unsignedNumeral? s.toList).bind fun n => uint16? n

end Switchboard.Text
