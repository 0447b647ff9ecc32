/-!
# Finite numbers in the binary64 format

A number is its sign, its exponent field and its fraction field, so equality is equality of
representations and `-0` differs from `0`. Products and quotients are rounded to nearest, ties to an
even significand.

A decimal number is read in one of two ways. `ofDecimal?` rounds once. `ofScaled?` is faster and
less exact: it rounds the whole number in front of the power of ten, takes the power of ten from a
table and rounds their product or quotient again, so that what it reads can be a neighbour of the
nearest number.
-/

namespace Switchboard

/-- The least significand of a number that is not subnormal, 2 to the 52. -/
abbrev hiddenBit : Nat := 4503599627370496

/-- A finite number of the binary64 format. -/
structure Binary64 where
  /-- The sign bit. -/
  negative : Bool
  /-- The exponent field; the field 2047, of infinities and NaN, is left out. -/
  exponent : Fin 2047
  /-- The fraction field. -/
  fraction : Fin hiddenBit
deriving DecidableEq

namespace Binary64

/-- The number zero with a sign. -/
def zero (negative : Bool) : Binary64 := ⟨negative, 0, 0⟩

instance : Inhabited Binary64 := ⟨zero false⟩

/-- The whole number that is scaled: the magnitude is `significand * 2 ^ scale`. -/
def significand (x : Binary64) : Nat :=
  if x.exponent.val = 0 then x.fraction.val else hiddenBit + x.fraction.val

/-- The power of two of the magnitude `significand * 2 ^ scale`. -/
def scale (x : Binary64) : Int :=
  if x.exponent.val = 0 then -1074 else (x.exponent.val : Int) - 1075

/-- `num / den`, to the nearest whole number, a tie to the even one. -/
def divNearestEven (num den : Nat) : Nat :=
  let q := num / den
  let twice := 2 * (num % den)
  if twice < den then q
  else if den < twice then q + 1
  else if q % 2 = 0 then q else q + 1

/-- The fraction `num / den * 2 ^ (-k)` as a fraction of whole numbers. -/
def scaleDown (num den : Nat) (k : Int) : Nat × Nat :=
  if 0 ≤ k then (num, den * Nat.pow 2 k.toNat) else (num * Nat.pow 2 (-k).toNat, den)

/-- The greatest `l` with `2 ^ l ≤ num / den`, for a positive `num / den`. -/
def log2Ratio (num den : Nat) : Int :=
  let l : Int := (num.log2 : Int) - (den.log2 : Int)
  let (n, d) := scaleDown num den l
  if d ≤ n then l else l - 1

/-- The number `significand * 2 ^ scale`, for a significand of at most 53 bits; nothing when it is
too large for the format. -/
def encode? (negative : Bool) (significand : Nat) (scale : Int) : Option Binary64 :=
  if h : significand < hiddenBit then some ⟨negative, 0, ⟨significand, h⟩⟩
  else
    let field := (scale + 1075).toNat
    if he : field < 2047 then
      some ⟨negative, ⟨field, he⟩,
        ⟨(significand - hiddenBit) % hiddenBit, Nat.mod_lt _ (by decide)⟩⟩
    else none

/-- The number nearest to `num / den`. -/
def ofRatio? (negative : Bool) (num den : Nat) : Option Binary64 :=
  if num = 0 then some (zero negative)
  else
    let scale := max (-1074) (log2Ratio num den - 52)
    let (n, d) := scaleDown num den scale
    let s := divNearestEven n d
    if s = 2 * hiddenBit then encode? negative hiddenBit (scale + 1) else encode? negative s scale

/-- The number nearest to `m * 10 ^ e`; nothing when that is too large for the format. Exponents far
out of range are answered without computing the power. -/
def ofDecimal? (negative : Bool) (m : Nat) (e : Int) : Option Binary64 :=
  if m = 0 then some (zero negative)
  else
    let size : Int := (m.log2 : Int) * 30103 / 100000 + e
    if 400 < size then none
    else if size < -400 then some (zero negative)
    else if 0 ≤ e then ofRatio? negative (m * Nat.pow 10 e.toNat) 1
    else ofRatio? negative m (Nat.pow 10 (-e).toNat)

/-! ## Arithmetic -/

/-- The magnitude as a fraction of whole numbers. -/
def ratio (x : Binary64) : Nat × Nat := scaleDown x.significand 1 (-x.scale)

/-- The number nearest to a product; nothing when that is too large for the format. -/
def mul? (x y : Binary64) : Option Binary64 :=
  ofRatio? (x.negative != y.negative) (x.ratio.1 * y.ratio.1) (x.ratio.2 * y.ratio.2)

/-- The number nearest to a quotient, for a divisor that is not zero; nothing when that is too large
for the format. -/
def div? (x y : Binary64) : Option Binary64 :=
  ofRatio? (x.negative != y.negative) (x.ratio.1 * y.ratio.2) (x.ratio.2 * y.ratio.1)

/-! ## Scaling by powers of ten -/

/-- The greatest power of ten in the format. -/
def greatestTen : Nat := 308

/-- The number nearest to a power of ten of the format. -/
def ten (k : Nat) : Binary64 := (ofDecimal? false 1 k).getD (zero false)

/-- `x * 10 ^ e` in one step for a power of ten of the format, else in steps of the greatest one
until nothing is left; nothing when it is too large for the format. -/
def scaleTen? (x : Binary64) (e : Int) : Option Binary64 :=
  if greatestTen < e.natAbs then
    if x.significand = 0 then some x
    else if 0 ≤ e then none
    else (x.div? (ten greatestTen)).bind fun y => y.scaleTen? (e + greatestTen)
  else if 0 ≤ e then x.mul? (ten e.toNat)
  else x.div? (ten (-e).toNat)
termination_by (-e).toNat
decreasing_by
  unfold greatestTen at *
  omega

/-- The number that `m * 10 ^ e` is read as when first `m` is rounded and then its product with the
power of ten; nothing when that is too large for the format. -/
def ofScaled? (negative : Bool) (m : Nat) (e : Int) : Option Binary64 :=
  ((ofRatio? false m 1).bind fun x => x.scaleTen? e).map fun x => { x with negative }

end Binary64

end Switchboard
