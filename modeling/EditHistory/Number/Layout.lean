import EditHistory.Number.Shortest

/-!
# Numbers as text

Three layouts of a double and the one of an integer.

* `display` — the fewest digits that read back, positional while the decimal exponent is from -4 to 15, always
  with a point or an exponent
* `general` — six significant digits, positional while the decimal exponent is from -4 to 5, without trailing
  zeros
* `hundredths` — two places after the point

An exponent has a sign and at least two digits.
-/

namespace EditHistory.Number

/-- A natural number in decimal. -/
def natText (n : Nat) : List Char :=
  if n = 0 then ['0'] else (digitsOf n).map fun d => Char.ofNat (0x30 + d)

/-- An integer in decimal. -/
def intText (n : Int) : List Char :=
  if n < 0 then '-' :: natText n.natAbs else natText n.natAbs

/-- Digits as characters. -/
def digitText (ds : List Nat) : List Char :=
  ds.map fun d => Char.ofNat (0x30 + d)

/-- An exponent: its sign and at least two digits. -/
def exponentText (e : Int) : List Char :=
  let ds := natText e.natAbs
  'e' :: (if e < 0 then '-' else '+') :: (if ds.length < 2 then '0' :: ds else ds)

/-- Scientific layout: one digit before the point, and no point when there is one digit in all. -/
def scientific (d : Decimal) : List Char :=
  match digitText d.digits with
  | [] => ['0']
  | [c] => c :: exponentText (d.point - 1)
  | c :: cs => c :: '.' :: cs ++ exponentText (d.point - 1)

/-- Positional layout: the digits before the point and those after it. -/
def positional (d : Decimal) : List Char × List Char :=
  let ds := digitText d.digits
  if d.point ≤ 0 then (['0'], List.replicate (-d.point).toNat '0' ++ ds)
  else
    let n := d.point.toNat
    (ds.take n ++ List.replicate (n - ds.length) '0', ds.drop n)

/-- A sign put before a text. -/
def withSign (negative : Bool) (cs : List Char) : List Char :=
  if negative then '-' :: cs else cs

/-- A layout extended to the doubles that are not finite. -/
def layout (finite : Nat → Int → List Char) (x : Float) : List Char :=
  match parts x with
  | .nan => ['n', 'a', 'n']
  | .infinite negative => withSign negative ['i', 'n', 'f']
  | .finite negative m q => withSign negative (finite m q)

/-- The shortest text that reads back as the double. -/
def display : Float → List Char :=
  layout fun m q =>
    let d := shortest m q
    if m = 0 then ['0', '.', '0']
    else if -4 < d.point ∧ d.point ≤ 16 then
      match positional d with
      | (whole, []) => whole ++ ['.', '0']
      | (whole, frac) => whole ++ '.' :: frac
    else scientific d

/-- Six significant digits without trailing zeros. -/
def general : Float → List Char :=
  layout fun m q =>
    let d := significant 6 m q
    let d : Decimal := ⟨(d.digits.reverse.dropWhile (· == 0)).reverse, d.point⟩
    if m = 0 then ['0']
    else if -4 < d.point ∧ d.point ≤ 6 then
      match positional d with
      | (whole, []) => whole
      | (whole, frac) => whole ++ '.' :: frac
    else scientific d

/-- Two places after the point. -/
def hundredths : Float → List Char :=
  layout fun m q =>
    let n := fixed 2 m q
    natText (n / 100) ++ '.' :: digitText [n / 10 % 10, n % 10]

end EditHistory.Number
