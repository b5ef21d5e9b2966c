import EditHistory.Number.Binary

/-!
# Decimal digits of a double

A finite double is an exact fraction, and this module picks decimal digits for it by exact arithmetic.

* `shortest` takes the fewest digits that read back as the same double.  The reals that read back as `m · 2 ^ q`
  form an interval around it, closed iff `m` is even; for one digit, then two, and so on up to seventeen, the two
  neighbours of the value on that decimal grid are tried, and the nearer one in the interval wins.
* `significant` rounds to a given number of significant digits.
* `fixed` rounds to a given number of places after the point.

Digits come as a `Decimal`: the value is `0.d₁d₂… · 10 ^ point`.
-/

namespace EditHistory.Number

/-- Decimal digits, the first of them nonzero unless the number is zero, with the place of the point: the value
is `0.d₁d₂… · 10 ^ point`. -/
structure Decimal where
  digits : List Nat
  point : Int
  deriving DecidableEq, Repr

/-- The decimal digits of a number, least significant first, with a bound on how many. -/
def digitsUpTo : Nat → Nat → List Nat
  | 0, _ => []
  | fuel + 1, n => if n = 0 then [] else n % 10 :: digitsUpTo fuel (n / 10)

/-- The decimal digits of a number, most significant first; none for zero. -/
def digitsOf (n : Nat) : List Nat :=
  (digitsUpTo (n.log2 / 3 + 1) n).reverse

/-- A nonnegative fraction. -/
structure Fraction where
  num : Nat
  den : Nat

/-- The magnitude `m · 2 ^ q` as a fraction. -/
def Fraction.ofBinary (m : Nat) (q : Int) : Fraction :=
  if 0 ≤ q then ⟨m * Nat.pow 2 q.toNat, 1⟩ else ⟨m, Nat.pow 2 (-q).toNat⟩

/-- The fraction times `10 ^ e`. -/
def Fraction.scale (x : Fraction) (e : Int) : Fraction :=
  if 0 ≤ e then ⟨x.num * Nat.pow 10 e.toNat, x.den⟩ else ⟨x.num, x.den * Nat.pow 10 (-e).toNat⟩

/-- Whether one fraction is less than another. -/
def Fraction.lt (x y : Fraction) : Bool :=
  x.num * y.den < y.num * x.den

/-- Whether one fraction is at most another. -/
def Fraction.le (x y : Fraction) : Bool :=
  x.num * y.den ≤ y.num * x.den

/-- The nearest integer to a fraction; a half goes to the even neighbour. -/
def Fraction.round (x : Fraction) : Nat :=
  let n := x.num / x.den
  let r := x.num % x.den
  if 2 * r < x.den then n
  else if x.den < 2 * r then n + 1
  else if n % 2 = 0 then n else n + 1

/-- The place of the point: the `p` with `10 ^ (p - 1) ≤ x < 10 ^ p`, for a positive fraction above
`10 ^ (-400)`. -/
def Fraction.point (x : Fraction) : Int :=
  let y := x.scale 400
  (digitsOf (y.num / y.den)).length - 400

/-- Whether a real reads back as the double `m · 2 ^ q`: it lies no farther from it than half the distance to
the next double, ends included iff `m` is even.  Below a power of two the doubles are twice as dense. -/
def readsBack (m : Nat) (q : Int) (x : Fraction) : Bool :=
  let low := Fraction.ofBinary (if m = Nat.pow 2 52 ∧ -1074 < q then 4 * m - 1 else 4 * m - 2) (q - 2)
  let high := Fraction.ofBinary (4 * m + 2) (q - 2)
  if m % 2 = 0 then low.le x && x.le high else low.lt x && x.lt high

/-- The decimal `n · 10 ^ e` without trailing zeros. -/
def Decimal.ofScaled (n : Nat) (e : Int) : Decimal :=
  let ds := digitsOf n
  ⟨(ds.reverse.dropWhile (· == 0)).reverse, e + ds.length⟩

/-- The candidate with the digits `n` on the grid of step `10 ^ e`. -/
private def onGrid (n : Nat) (e : Int) : Fraction :=
  Fraction.scale ⟨n, 1⟩ e

/-- Tries the grids of `count`, `count + 1`, … digits, `fuel` of them, and takes the nearer of the value's two
neighbours that reads back. -/
def shortestFrom (m : Nat) (q : Int) (p : Int) : Nat → Nat → Decimal
  | 0, count =>
    let e := p - count
    .ofScaled ((Fraction.ofBinary m q).scale (-e)).round e
  | fuel + 1, count =>
    let e := p - count
    let v := (Fraction.ofBinary m q).scale (-e)
    let below := v.num / v.den
    let nearest := v.round
    let other := if nearest = below then below + 1 else below
    if readsBack m q (onGrid nearest e) then .ofScaled nearest e
    else if readsBack m q (onGrid other e) then .ofScaled other e
    else shortestFrom m q p fuel (count + 1)

/-- The fewest decimal digits that read back as the magnitude `m · 2 ^ q`, and of those the nearest. -/
def shortest (m : Nat) (q : Int) : Decimal :=
  if m = 0 then ⟨[], 0⟩
  else shortestFrom m q (Fraction.ofBinary m q).point 16 1

/-- The magnitude `m · 2 ^ q` rounded to `count` significant digits, trailing zeros kept. -/
def significant (count : Nat) (m : Nat) (q : Int) : Decimal :=
  if m = 0 then ⟨List.replicate count 0, 1⟩
  else
    let x := Fraction.ofBinary m q
    let p := x.point
    let n := (x.scale (count - p)).round
    let ds := digitsOf n
    if ds.length = count then ⟨ds, p⟩ else ⟨ds.take count, p + 1⟩

/-- The magnitude `m · 2 ^ q` rounded to `places` digits after the point, as a whole number of the last place. -/
def fixed (places : Nat) (m : Nat) (q : Int) : Nat :=
  ((Fraction.ofBinary m q).scale places).round

end EditHistory.Number
