/-!
# Ratios as decimal numbers

A report states a ratio of two counts as a number with a point.  Two roundings are involved, both
exact here:

1. the ratio is rounded to the nearest number with a 53 bit mantissa (`Decimal.Binary.ofRatio`),
   ties going to the even mantissa;
2. that number is written with as few decimal digits as identify it (`Decimal.Binary.shortest`):
   of all decimals that are closer to it than to its neighbours, one with the fewest digits, and of
   these the nearest.

All arithmetic is on natural numbers.  `Decimal.layout` then places the point; it always leaves a
fraction, so that `1` reads `1.0`.
-/

namespace Automaton.Decimal

/-- **A binary number** `mantissa * 2 ^ exponent`. -/
structure Binary where
  /-- The digits: 53 bits, unless the number is zero. -/
  mantissa : Nat
  /-- The place of the last bit. -/
  exponent : Int
  deriving DecidableEq, Repr

/-- The nearest natural number to `num / den`; a tie goes to the even one. -/
def roundDiv (num den : Nat) : Nat :=
  let q := num / den
  let r := num % den
  if 2 * r < den then q
  else if den < 2 * r then q + 1
  else if q % 2 = 0 then q else q + 1

/-- `num / den * 2 ^ (-e)` as a fraction of natural numbers. -/
def unscale (num den : Nat) (e : Int) : Nat × Nat :=
  (num * Nat.pow 2 (-e).toNat, den * Nat.pow 2 e.toNat)

/-- The place at which `num / den` has 53 bits before the point. -/
def placeOf (num den : Nat) : Int :=
  let guess : Int := (num.log2 : Int) - (den.log2 : Int) - 52
  let (n, d) := unscale num den guess
  if n / d < Nat.pow 2 52 then guess - 1 else guess

/-- **Rounding a ratio** to 53 bits. -/
def Binary.ofRatio (num den : Nat) : Binary :=
  if num = 0 ∨ den = 0 then ⟨0, 0⟩
  else
    let e := placeOf num den
    let (n, d) := unscale num den e
    let m := roundDiv n d
    if m = Nat.pow 2 53 then ⟨Nat.pow 2 52, e + 1⟩ else ⟨m, e⟩

/-- The numbers that round to a binary number: everything from `low / unit` to `high / unit`.  The
ends belong to it if `closed`. -/
structure Catchment where
  low : Nat
  value : Nat
  high : Nat
  unit : Nat
  closed : Bool

/-- The catchment of a binary number reaches half way to its neighbours.  Below a power of two the
neighbour is closer. -/
def Binary.catchment (b : Binary) : Catchment :=
  let up := Nat.pow 2 b.exponent.toNat
  let value := 4 * b.mantissa * up
  { low := value - (if b.mantissa = Nat.pow 2 52 then up else 2 * up)
    value
    high := value + 2 * up
    unit := 4 * Nat.pow 2 (-b.exponent).toNat
    closed := b.mantissa % 2 == 0 }

/-- **A decimal number** `digits * 10 ^ exponent`. -/
structure Digits where
  digits : Nat
  exponent : Int
  deriving DecidableEq, Repr

/-- Both sides of a comparison of `n / unit` with `digits * 10 ^ exponent`, free of fractions. -/
def Digits.against (d : Digits) (n unit : Nat) : Nat × Nat :=
  (d.digits * unit * Nat.pow 10 d.exponent.toNat, n * Nat.pow 10 (-d.exponent).toNat)

/-- Whether a decimal lies in a catchment. -/
def Digits.within (d : Digits) (c : Catchment) : Bool :=
  let (x, low) := d.against c.low c.unit
  let (_, high) := d.against c.high c.unit
  if c.closed then low ≤ x && x ≤ high else low < x && x < high

/-- The distance of a decimal to the middle of a catchment, in a unit that depends on the decimal's
exponent only. -/
def Digits.distance (d : Digits) (c : Catchment) : Nat :=
  let (x, v) := d.against c.value c.unit
  (x - v) + (v - x)

/-- The decimals next to a number on the grid of `10 ^ exponent`, below and above. -/
def neighbours (c : Catchment) (exponent : Int) : Digits × Digits :=
  let (one, v) := Digits.against ⟨1, exponent⟩ c.value c.unit
  (⟨v / one, exponent⟩, ⟨v / one + 1, exponent⟩)

/-- The better of the two neighbours on a grid, if one of them lies in the catchment. -/
def onGrid (c : Catchment) (exponent : Int) : Option Digits :=
  let (below, above) := neighbours c exponent
  match below.within c, above.within c with
  | true, true =>
    if above.distance c < below.distance c then some above
    else if below.distance c < above.distance c then some below
    else some (if below.digits % 2 = 0 then below else above)
  | true, false => some below
  | false, true => some above
  | false, false => none

/-- How many digits a number has before the point; zero or less counts the zeros behind it. -/
def magnitude (c : Catchment) : Int :=
  if c.unit ≤ c.value then (Nat.toDigits 10 (c.value / c.unit)).length
  else
    -- the first power of ten that lifts the number to one or more
    let zeros := ((List.range 400).find? fun k => c.unit ≤ c.value * Nat.pow 10 (k + 1)).getD 0
    Int.neg zeros

/-- **The shortest decimal** that still identifies a binary number, from the coarsest grid that has
a decimal in the catchment.  The search begins one place above the first digit, for numbers just
below a power of ten; seventeen digits always suffice. -/
def Binary.shortest (b : Binary) : Digits :=
  let c := b.catchment
  let top := magnitude c
  ((List.range 18).findSome? fun (k : Nat) => onGrid c (top - (k : Int))).getD ⟨0, 0⟩

/-- Where positional writing ends: numbers with more than `before` digits before the point, or with
`after` zeros or more behind it, are written with an exponent. -/
structure Extent where
  before : Int
  after : Int

/-- Reports write up to sixteen digits before the point and up to four zeros behind it. -/
def Extent.report : Extent := ⟨16, 5⟩

/-- **Placing the point** in `digits * 10 ^ exponent`. -/
def layout (extent : Extent) (d : Digits) : String :=
  if d.digits = 0 then "0.0"
  else
    let ds := Nat.toDigits 10 d.digits
    let point : Int := ds.length + d.exponent
    let zeros (n : Int) : List Char := List.replicate n.toNat '0'
    if 0 ≤ d.exponent ∧ point ≤ extent.before then
      String.ofList (ds ++ zeros d.exponent ++ ['.', '0'])
    else if 0 < point ∧ point ≤ extent.before then
      String.ofList (ds.take point.toNat ++ ['.'] ++ ds.drop point.toNat)
    else if -extent.after < point ∧ point ≤ 0 then
      String.ofList (['0', '.'] ++ zeros (-point) ++ ds)
    else
      let fraction := if ds.length = 1 then [] else '.' :: ds.drop 1
      String.ofList (ds.take 1 ++ fraction ++ ['e']) ++ toString (point - 1)

/-- **A ratio in a report.** -/
def ratio (num den : Nat) : String :=
  layout Extent.report (Binary.ofRatio num den).shortest

end Automaton.Decimal
