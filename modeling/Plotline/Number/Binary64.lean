import Plotline.Number.Numeral

/-!
# Binary numbers of 64 bits

The numbers with a fraction that settings can hold: a sign, a significand below 2^53 and a power of
two, or an infinity, or the undefined number. All arithmetic is exact, on naturals.

* `Binary64.ofRatio` is the nearest such number to a quotient, the even one of two that are equally
  near. `Binary64.ofDecimal` applies it to digits and a power of ten.
* `Binary64.ofNat?`, `Binary64.add` and `Binary64.mul` compute with sizes, that is with numbers
  without a sign; each result is rounded.
* `Binary64.truncate` drops the fraction.
* `Binary64.sameAsInt` and `Binary64.same` compare by value.
-/

namespace Plotline.Number

/-- A number `± significand * 2 ^ exponent`, an infinity, or the undefined number. -/
inductive Binary64
  | finite (negative : Bool) (significand : Nat) (exponent : Int)
  | infinite (negative : Bool)
  | undefined
  deriving DecidableEq, Repr

namespace Binary64

/-- A power of two; with a negative exponent it is 1, and stands below the line as `twoTo (-e)`. -/
def twoTo (e : Int) : Nat := Nat.pow 2 e.toNat

/-- A power of ten; with a negative exponent it is 1, and stands below the line as `tenTo (-e)`. -/
def tenTo (e : Int) : Nat := Nat.pow 10 e.toNat

/-- The smallest exponent. -/
def minExponent : Int := -1074

/-- The quotient rounded to the nearest natural, a half to the even one. -/
def divNearest (n d : Nat) : Nat :=
  let q := n / d
  let r := n % d
  if 2 * r < d then q
  else if d < 2 * r then q + 1
  else if q % 2 = 0 then q
  else q + 1

/-- The exponent that gives the quotient `n / d` a significand of 53 bits, if the range of
exponents admits it. -/
def exponentFor (n d : Nat) : Int :=
  let guess : Int := (Nat.log2 n : Int) - Nat.log2 d - 52
  let fits := d * twoTo guess * twoTo 52 ≤ n * twoTo (-guess)
  max minExponent (if fits then guess else guess - 1)

/-- The number nearest to `n / d`. -/
def ofRatio (negative : Bool) (n d : Nat) : Binary64 :=
  if n = 0 ∨ d = 0 then .finite negative 0 minExponent
  else
    let e := exponentFor n d
    let m := divNearest (n * twoTo (-e)) (d * twoTo e)
    let (m, e) := if m = twoTo 53 then (twoTo 52, e + 1) else (m, e)
    if 971 < e then .infinite negative else .finite negative m e

/-- The number nearest to `digits * 10 ^ exponent`. -/
def ofDecimal (negative : Bool) (digits : Nat) (exponent : Int) : Binary64 :=
  let top : Int := (Nat.toDigits 10 digits).length + exponent
  if digits = 0 ∨ top < -400 then .finite negative 0 minExponent
  else if 400 < top then .infinite negative
  else ofRatio negative (digits * tenTo exponent) (tenTo (-exponent))

/-! ## Computing -/

/-- The number with the other sign. -/
def negate : Binary64 → Binary64
  | finite negative m e => finite (!negative) m e
  | infinite negative => infinite (!negative)
  | undefined => undefined

/-- The number nearest to an integer, if that is in their range. -/
def ofNat? (n : Nat) : Option Binary64 :=
  match ofRatio false n 1 with
  | infinite _ => none
  | x => some x

/-- The sum of two sizes. -/
def add : Binary64 → Binary64 → Binary64
  | finite _ m e, finite _ n f =>
    let low := min e f
    let sum := m * twoTo (e - low) + n * twoTo (f - low)
    ofRatio false (sum * twoTo low) (twoTo (-low))
  | undefined, _ | _, undefined => undefined
  | _, _ => infinite false

/-- The product of two sizes. -/
def mul : Binary64 → Binary64 → Binary64
  | finite _ m e, finite _ n f =>
    let scale := e + f
    ofRatio false (m * n * twoTo scale) (twoTo (-scale))
  | infinite _, x | x, infinite _ =>
    match x with
    | finite _ 0 _ | undefined => undefined
    | _ => infinite false
  | undefined, _ | _, undefined => undefined

/-! ## Comparing and truncating -/

/-- Zero, of either sign. -/
def isZero : Binary64 → Bool
  | finite _ m _ => m = 0
  | _ => false

/-- The size of a finite number without its fraction. -/
def floorSize (m : Nat) (e : Int) : Nat := m * twoTo e / twoTo (-e)

/-- The integer that remains when the fraction is dropped. -/
def truncate : Binary64 → Except Fault Int
  | finite negative m e =>
    let n : Int := floorSize m e
    .ok (if negative then -n else n)
  | infinite _ => .error .infinite
  | undefined => .error .undefined

/-- The number has the value of this integer. -/
def sameAsInt (x : Binary64) (n : Int) : Bool :=
  match x with
  | finite negative m e =>
    let size := m * twoTo e
    (if negative then -(size : Int) else size) = n * twoTo (-e)
  | _ => false

/-- Two numbers have the same value. The undefined number differs from all. -/
def same : Binary64 → Binary64 → Bool
  | finite s m e, finite t n f =>
    let a : Int := m * twoTo (e - f)
    let b : Int := n * twoTo (f - e)
    (if s then -a else a) = (if t then -b else b)
  | infinite s, infinite t => s = t
  | _, _ => false

end Binary64

end Plotline.Number
