import Plotline.Number.Binary64

/-!
# Shortest decimals

The text of a number with a fraction: the fewest digits that read back as the number, and of those
the nearest to it.

* `Binary64.readsBack` says that a decimal is rounded to the number. All comparisons are exact.
* `Binary64.shortest` searches the numbers of digits from one upwards. On each decimal grid the two
  neighbours of the number are the candidates.
* `Binary64.text` lays the digits out: positionally if the point stands at most 16 places behind the
  first digit and less than 4 places in front of it, else with a power of ten.
-/

namespace Plotline.Number.Binary64

/-- Compares `a * 10 ^ i` with `n * 2 ^ j`. -/
def compareScaled (a : Nat) (i : Int) (n : Nat) (j : Int) : Ordering :=
  compare (a * tenTo i * twoTo (-j)) (n * twoTo j * tenTo (-i))

/-- The decimal `digits * 10 ^ place` lies among the reals that are rounded to `m * 2 ^ e`. They
reach half-way to either neighbour; below a power of two the neighbour is nearer. The ends belong
to the even one. -/
def readsBack (m : Nat) (e : Int) (digits : Nat) (place : Int) : Bool :=
  let low := if m = twoTo 52 ∧ minExponent < e then 4 * m - 1 else 4 * m - 2
  let high := 4 * m + 2
  let even := m % 2 = 0
  let lower := compareScaled digits place low (e - 2)
  let upper := compareScaled digits place high (e - 2)
  (lower = .gt ∨ (even ∧ lower = .eq)) ∧ (upper = .lt ∨ (even ∧ upper = .eq))

/-- The number of digits in front of the point; it is negative for numbers far below one. -/
def magnitude (m : Nat) (e : Int) : Int :=
  (Nat.toDigits 10 (floorSize (m * tenTo 340) e)).length - 340

/-- The neighbours on the grid of `10 ^ place` that read back; the nearer comes first, the even one
if they are equally near. -/
def neighbours (m : Nat) (e : Int) (place : Int) : List Nat :=
  let below := m * twoTo e * tenTo (-place) / (twoTo (-e) * tenTo place)
  let belowFirst :=
    match compareScaled (2 * below + 1) place (2 * m) e with
    | .gt => true
    | .lt => false
    | .eq => below % 2 = 0
  (if belowFirst then [below, below + 1] else [below + 1, below]).filter (readsBack m e · place)

/-- The fewest digits that read back, and the place of the last one. Seventeen always suffice. -/
def shortest (m : Nat) (e : Int) : Nat × Int :=
  let k := magnitude m e
  ((List.range' 1 17).findSome? fun n : Nat =>
      (neighbours m e (k - n)).head?.map fun digits => (digits, k - n)).getD (0, 0)

/-- The digits without zeros at the end, and how many digits stand in front of the point. -/
def significant (digits : Nat) (place : Int) : List Char × Int :=
  let ds := Nat.toDigits 10 digits
  ((ds.reverse.dropWhile (· = '0')).reverse, ds.length + place)

/-- Lays out digits whose point stands behind the first `point` of them. -/
def layDigits (ds : List Char) (point : Int) : List Char :=
  if point ≤ -4 ∨ 16 < point then
    let e := point - 1
    let size := Nat.toDigits 10 e.natAbs
    let fraction := match ds.drop 1 with
      | [] => []
      | rest => '.' :: rest
    ds.take 1 ++ fraction ++ ['e', if e < 0 then '-' else '+'] ++
      List.replicate (2 - size.length) '0' ++ size
  else if point ≤ 0 then '0' :: '.' :: List.replicate (-point).toNat '0' ++ ds
  else
    let n := point.toNat
    let fraction := match ds.drop n with
      | [] => ['0']
      | rest => rest
    ds.take n ++ List.replicate (n - ds.length) '0' ++ '.' :: fraction

/-- The text of a number. -/
def text : Binary64 → String
  | undefined => "nan"
  | infinite negative => if negative then "-inf" else "inf"
  | finite negative m e =>
    let body :=
      if m = 0 then ['0', '.', '0']
      else
        let (digits, place) := shortest m e
        let (ds, point) := significant digits place
        layDigits ds point
    String.ofList (if negative then '-' :: body else body)

/-- Reads a decimal with an optional sign, fraction and power of ten. -/
def read? (s : List Char) : Option Binary64 :=
  let (negative, body) := Numeral.takeSign s
  let whole := body.takeWhile Char.isDigit
  let rest := body.dropWhile Char.isDigit
  let (fraction, rest) := match rest with
    | '.' :: r => (r.takeWhile Char.isDigit, r.dropWhile Char.isDigit)
    | r => ([], r)
  let digits := Numeral.value 10 ((whole ++ fraction).map fun c => c.toNat - '0'.toNat)
  let power? : Option Int :=
    match rest with
    | [] => some 0
    | c :: r =>
      if c = 'e' ∨ c = 'E' then
        let (minus, ds) := Numeral.takeSign r
        if ds ≠ [] ∧ ds.all Char.isDigit then
          let n : Int := Numeral.value 10 (ds.map fun c => c.toNat - '0'.toNat)
          some (if minus then -n else n)
        else none
      else none
  if whole ++ fraction = [] then none
  else power?.map fun p => ofDecimal negative digits (p - fraction.length)

end Plotline.Number.Binary64
