/-!
The fewest decimal digits that identify a binary floating point value.

A finite value stands for all reals that round to it. Among the decimals in that interval the one on
the coarsest grid of powers of ten is chosen, and the nearer one of two on the same grid. It is
written out without an exponent, however large or small the value is.
-/

namespace BleBeacon

structure Decimal where
  digits : Nat
  exponent : Int
deriving DecidableEq, Repr

namespace Decimal

-- The positive value `significand * 2 ^ exponent`.
structure Binary where
  significand : Nat
  exponent : Int
  -- The gap to the next smaller value is half the gap to the next larger one.
  narrowBelow : Bool

-- The magnitude of a finite binary64 value, from its bits.
def Binary.ofBits (bits : UInt64) : Binary :=
  let field := ((bits >>> 52) &&& 0x7FF).toNat
  let fraction := (bits &&& 0xFFFFFFFFFFFFF).toNat
  if field = 0 then ⟨fraction, -1074, false⟩
  else ⟨0x10000000000000 + fraction, (field : Int) - 1075, fraction == 0 && 1 < field⟩

-- The order of `a * 10 ^ i` and `n * 2 ^ j`, in exact arithmetic.
def compareScaled (a : Nat) (i : Int) (n : Nat) (j : Int) : Ordering :=
  compare (a * Nat.pow 10 i.toNat * Nat.pow 2 (-j).toNat)
    (n * Nat.pow 2 j.toNat * Nat.pow 10 (-i).toNat)

/-- Whether a decimal lies among the reals that round to `x`: from halfway to the neighbour below to
halfway to the neighbour above, both ends included exactly when the significand is even. -/
def Binary.readsBack (x : Binary) (d : Decimal) : Bool :=
  let low := if x.narrowBelow then 4 * x.significand - 1 else 4 * x.significand - 2
  let high := 4 * x.significand + 2
  let closed := x.significand % 2 == 0
  let atLow := compareScaled d.digits d.exponent low (x.exponent - 2)
  let atHigh := compareScaled d.digits d.exponent high (x.exponent - 2)
  (atLow == .gt || (closed && atLow == .eq)) && (atHigh == .lt || (closed && atHigh == .eq))

/-- The multiple of `10 ^ e` that reads back as `x`, if there is one. Only the two neighbours of `x`
on the grid can; of two the nearer one is taken, and the larger one when both are as near. -/
def Binary.onGrid? (x : Binary) (e : Int) : Option Decimal :=
  let numerator := x.significand * Nat.pow 2 x.exponent.toNat * Nat.pow 10 (-e).toNat
  let denominator := Nat.pow 2 (-x.exponent).toNat * Nat.pow 10 e.toNat
  let below : Decimal := ⟨numerator / denominator, e⟩
  let above : Decimal := ⟨numerator / denominator + 1, e⟩
  match x.readsBack below, x.readsBack above with
  | true, true =>
    if 2 * numerator < (2 * below.digits + 1) * denominator then some below else some above
  | true, false => some below
  | false, true => some above
  | false, false => none

/-- The first hit on the grids `10 ^ e`, `10 ^ (e - 1)`, … of which `count` are tried. -/
def Binary.search (x : Binary) : Nat → Int → Option Decimal
  | 0, _ => none
  | count + 1, e => (x.onGrid? e).or (x.search count (e - 1))

/-- The decimal with the fewest digits that reads back as `x`. The grids from `10 ^ 309`, which is
above every binary64 value, down to `10 ^ (-342)` have a hit for each of them. -/
def Binary.shortest (x : Binary) : Decimal :=
  (x.search 652 309).getD ⟨0, 0⟩

-- A digit string without the zeros it ends with, and their number.
def stripZeros (ds : List Char) : List Char × Nat :=
  let zeros := ds.reverse.takeWhile (· == '0')
  ((ds.reverse.drop zeros.length).reverse, zeros.length)

/-- The digits of `d`, with zeros up to the decimal point or behind it as far as needed. -/
def positional (d : Decimal) : List Char :=
  let (ds, zeros) := stripZeros (Nat.toDigits 10 d.digits)
  let exponent := d.exponent + zeros
  if 0 ≤ exponent then ds ++ List.replicate exponent.toNat '0'
  else
    let places := (-exponent).toNat
    if places < ds.length then
      ds.take (ds.length - places) ++ '.' :: ds.drop (ds.length - places)
    else
      '0' :: '.' :: List.replicate (places - ds.length) '0' ++ ds

/-- The text of a value. Integral values have no point, and zero keeps its sign. -/
def text (x : Float) : String :=
  if x.isNaN then "NaN"
  else
    let bits := x.toBits
    let sign := if bits >>> 63 = 1 then "-" else ""
    if x.isInf then sign ++ "inf"
    else if bits <<< 1 = 0 then sign ++ "0"
    else sign ++ String.ofList (Binary.ofBits bits).shortest.positional

end Decimal

end BleBeacon
