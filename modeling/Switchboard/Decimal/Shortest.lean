import Switchboard.Decimal.Binary64

/-!
# The shortest decimal text of a number

Of all decimal numbers that read back as `x`, `shortest x` is one with the fewest digits, of those
the nearest to `x`, and of two equally near the one with an even last digit. `Layout` says how such
digits are written.
-/

namespace Switchboard.Binary64

/-- A positive decimal number `digits * 10 ^ exponent`. -/
structure Digits where
  /-- The digits as one whole number. -/
  digits : Nat
  /-- The power of ten of the last digit. -/
  exponent : Int

/-- `10 ^ k * den ≤ num`. -/
def tenPowLe (k : Int) (num den : Nat) : Bool :=
  if 0 ≤ k then Nat.pow 10 k.toNat * den ≤ num else den ≤ num * Nat.pow 10 (-k).toNat

/-- The greatest `p` with `10 ^ p ≤ num / den`, for a positive `num / den`. -/
def log10Ratio (num den : Nat) : Int :=
  let p := log2Ratio num den * 30103 / 100000
  if tenPowLe (p + 1) num den then p + 1
  else if tenPowLe p num den then p
  else p - 1

/-- The magnitude and the interval of the numbers that round to it, as numerators over one common
denominator. -/
structure Interval where
  /-- The magnitude. -/
  middle : Nat
  /-- The lower end. -/
  low : Nat
  /-- The upper end. -/
  high : Nat
  /-- The common denominator. -/
  den : Nat
  /-- The ends round to the magnitude too. -/
  closed : Bool

/-- The interval of numbers that round to a positive magnitude. -/
def interval (x : Binary64) : Interval :=
  let s := x.significand
  let narrow := s = hiddenBit && 1 < x.exponent.val
  let k := x.scale - 2
  let up := if 0 ≤ k then Nat.pow 2 k.toNat else 1
  let down := if 0 ≤ k then 1 else Nat.pow 2 (-k).toNat
  { middle := 4 * s * up
    low := (if narrow then 4 * s - 1 else 4 * s - 2) * up
    high := (4 * s + 2) * up
    den := down
    closed := s % 2 = 0 }

/-- `d * 10 ^ e` lies in the interval. -/
def Interval.contains (v : Interval) (d : Nat) (e : Int) : Bool :=
  let n := if 0 ≤ e then d * Nat.pow 10 e.toNat * v.den else d * v.den
  let t := if 0 ≤ e then 1 else Nat.pow 10 (-e).toNat
  if v.closed then v.low * t ≤ n && n ≤ v.high * t else v.low * t < n && n < v.high * t

/-- The neighbour of the magnitude on the grid of the multiples of `10 ^ e` that the interval
contains; of two, the nearer one, and of two equally near the even one. -/
def Interval.onGrid? (v : Interval) (e : Int) : Option Nat :=
  let num := if 0 ≤ e then v.middle else v.middle * Nat.pow 10 (-e).toNat
  let den := if 0 ≤ e then v.den * Nat.pow 10 e.toNat else v.den
  let d := num / den
  match v.contains d e && d != 0, v.contains (d + 1) e with
  | true, true => some (divNearestEven num den)
  | true, false => some d
  | false, true => some (d + 1)
  | false, false => none

/-- Leaves out the zeros at the end of the digits. -/
def Digits.strip : Nat → Digits → Digits
  | 0, d => d
  | fuel + 1, d =>
    if d.digits % 10 = 0 then Digits.strip fuel ⟨d.digits / 10, d.exponent + 1⟩ else d

/-- The digits of the finest grid tried, then of ever finer ones. -/
def searchGrid (v : Interval) (top : Int) : Nat → Nat → Digits
  | _, 0 => ⟨0, 0⟩
  | n, tries + 1 =>
    match v.onGrid? (top - n) with
    | some d => ⟨d, top - n⟩
    | none => searchGrid v top (n + 1) tries

/-- The shortest digits of a magnitude that is not zero. Seventeen digits always suffice. -/
def shortest (x : Binary64) : Digits :=
  let v := x.interval
  (searchGrid v (log10Ratio v.middle v.den) 0 18).strip 20

/-- How the digits of a number are laid out. -/
structure Layout where
  /-- The least power of ten of the first digit that is written without an exponent. -/
  leastPlain : Int
  /-- The greatest power of ten of the first digit that is written without an exponent. -/
  greatestPlain : Int
  /-- What stands before a positive exponent. -/
  positiveMark : String
  /-- What stands before a negative exponent. -/
  negativeMark : String

/-- The text of a natural number in decimal, padded with zeros on the left. -/
def padded (width n : Nat) : String :=
  let t := toString n
  String.ofList (List.replicate (width - t.length) '0') ++ t

/-- The text of a number: plain with at least one digit after the point, or one digit, the others
after a point if there are others, and an exponent. -/
def Layout.write (l : Layout) (x : Binary64) : String :=
  let sign := if x.negative then "-" else ""
  if x.significand = 0 then sign ++ "0.0"
  else
    let d := x.shortest
    let text := toString d.digits
    let first : Int := d.exponent + text.length - 1
    if l.leastPlain ≤ first ∧ first ≤ l.greatestPlain then
      if 0 ≤ d.exponent then sign ++ toString (d.digits * Nat.pow 10 d.exponent.toNat) ++ ".0"
      else
        let places := (-d.exponent).toNat
        let one := Nat.pow 10 places
        sign ++ toString (d.digits / one) ++ "." ++ padded places (d.digits % one)
    else
      let tail := String.ofList (text.toList.drop 1)
      sign ++ String.ofList (text.toList.take 1) ++ (if tail.isEmpty then "" else "." ++ tail) ++
        (if 0 ≤ first then l.positiveMark else l.negativeMark) ++ toString first.natAbs

end Switchboard.Binary64
