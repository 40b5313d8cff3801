/-!
# Binary floating point

A number with a fraction or an exponent is kept as the nearest binary number with 53 bits of
precision, as `mantissa · 2 ^ exponent`. All arithmetic here is exact arithmetic on natural numbers
followed by one rounding to the nearest representable number, ties to the even mantissa, so every
fact about it is a fact about natural numbers.

Two operations serve the readers and printers: rounding a quotient, and finding the shortest decimal
that rounds back. The shortest decimal is found on decimal grids of 1, 2, … 17 digits: the first
grid with a point inside the interval of reals that round to the number wins, and of its two
candidates the nearer one, the even one on a tie.
-/

namespace Sitewright

/-- A finite binary floating-point number `± mantissa · 2 ^ exponent`. -/
structure Binary64 where
  /-- Whether the sign is negative; zero has a sign too. -/
  negative : Bool
  /-- The significant bits, below `2 ^ 53`. -/
  mantissa : Nat
  /-- The power of two the mantissa is scaled by, at least `-1074`. -/
  exponent : Int
  deriving DecidableEq

namespace Binary64

/-- Zero with a sign. -/
def zero (negative : Bool) : Binary64 := ⟨negative, 0, -1074⟩

/-- Whether the number is zero, of either sign. -/
def isZero (x : Binary64) : Bool := x.mantissa == 0

/-- Numerical equality: the two zeros are one number. -/
def same (x y : Binary64) : Bool := (x.isZero && y.isZero) || x == y

theorem same_refl (x : Binary64) : x.same x = true := by simp [same]

/-- The nearest natural number to a quotient, the even one on a tie. -/
def roundDiv (num den : Nat) : Nat :=
  let q := num / den
  let r := num % den
  if 2 * r < den then q
  else if den < 2 * r then q + 1
  else if q % 2 == 0 then q else q + 1

/-- The numerator of `num · 2 ^ e` over `den`, brought to a quotient of natural numbers. -/
def scaleUp (num : Nat) (e : Int) : Nat := num * Nat.pow 2 e.toNat

/-- The denominator of `num · 2 ^ e` over `den`, brought to a quotient of natural numbers. -/
def scaleDown (den : Nat) (e : Int) : Nat := den * Nat.pow 2 (-e).toNat

/-- The exponent of the leading bit of a positive quotient. -/
def leadingBit (num den : Nat) : Int :=
  let k : Int := (num.log2 : Int) - (den.log2 : Int)
  if scaleUp den k ≤ scaleDown num k then k else k - 1

/-- The representable number nearest to `num / den`, or nothing if it is too large. -/
def ofQuotient (negative : Bool) (num den : Nat) : Option Binary64 :=
  if num == 0 then some (zero negative)
  else
    let e := max (leadingBit num den - 52) (-1074)
    let m := roundDiv (scaleDown num e) (scaleUp den e)
    let x : Binary64 :=
      if m == Nat.pow 2 53 then ⟨negative, Nat.pow 2 52, e + 1⟩ else ⟨negative, m, e⟩
    if 971 < x.exponent then none else some x

/-- The representable number nearest to a natural number. -/
def ofNat (n : Nat) : Option Binary64 := ofQuotient false n 1

/-- The rounded product, or nothing if it is too large. -/
def mul? (x y : Binary64) : Option Binary64 :=
  let e := x.exponent + y.exponent
  ofQuotient (x.negative != y.negative) (scaleUp (x.mantissa * y.mantissa) e) (scaleDown 1 e)

/-- The rounded quotient by a number other than zero, or nothing if it is too large. -/
def div? (x y : Binary64) : Option Binary64 :=
  let e := x.exponent - y.exponent
  ofQuotient (x.negative != y.negative) (scaleUp x.mantissa e) (scaleDown y.mantissa e)

/-- The number with the given sign. -/
def withSign (negative : Bool) (x : Binary64) : Binary64 := { x with negative := negative }

/-! ### The shortest decimal -/

/-- The number of decimal digits of `n` after the first, at most `fuel`. -/
def log10 : Nat → Nat → Nat
  | 0, _ => 0
  | fuel + 1, n => if n < 10 then 0 else log10 fuel (n / 10) + 1

/-- How often `num` must be multiplied by ten to reach `den`, at most `fuel` times. -/
def tensBelow : Nat → Nat → Nat → Nat
  | 0, _, _ => 0
  | fuel + 1, num, den => if den ≤ num then 0 else tensBelow fuel (num * 10) den + 1

/-- The exponent of the leading decimal digit of a positive quotient. -/
def leadingDigit (num den : Nat) : Int :=
  if den ≤ num then log10 400 (num / den) else -(tensBelow 400 num den : Int)

/-- The two points of a decimal grid next to a positive number, the better one first, kept if they
lie in the interval that rounds to it. The number is `4 · mantissa`, the interval reaches from `low`
to `high`, and all three are in units of `unitNum / unitDen`. -/
def gridCandidate (value low high unitNum unitDen : Nat) (inclusive : Bool) (grid : Int) :
    Option Nat :=
  let gridNum := Nat.pow 10 grid.toNat
  let gridDen := Nat.pow 10 (-grid).toNat
  -- A grid point `c` stands for `c * gridNum / gridDen`; both sides are brought to one denominator.
  let scale := unitNum * gridDen
  let step := gridNum * unitDen
  let c := value * scale / step
  let inside (d : Nat) : Bool :=
    let x := d * step
    if inclusive then low * scale ≤ x && x ≤ high * scale
    else low * scale < x && x < high * scale
  let below := value * scale - c * step
  let above := (c + 1) * step - value * scale
  let belowFirst := below < above || (below == above && c % 2 == 0)
  match inside c, inside (c + 1) with
  | true, true => some (if belowFirst then c else c + 1)
  | true, false => some c
  | false, true => some (c + 1)
  | false, false => none

/-- The shortest decimal `digits · 10 ^ exponent` that rounds to a number other than zero. -/
def shortest (x : Binary64) : Nat × Int :=
  let value := 4 * x.mantissa
  let low := if x.mantissa == Nat.pow 2 52 && -1074 < x.exponent then value - 1 else value - 2
  let high := value + 2
  let unitNum := scaleUp 1 (x.exponent - 2)
  let unitDen := scaleDown 1 (x.exponent - 2)
  let top := leadingDigit (value * unitNum) unitDen
  let inclusive := x.mantissa % 2 == 0
  let attempt (n : Nat) : Option (Nat × Int) :=
    let grid := top - n
    (gridCandidate value low high unitNum unitDen inclusive grid).map fun d => (d, grid)
  ((List.range 17).findSome? attempt).getD (x.mantissa, 0)

end Binary64

/-! ### Decimal text -/

/-- How the decimal text of a floating-point number is laid out. -/
structure DecimalLayout where
  /-- The smallest decimal exponent that is written without an exponent mark. -/
  leastPositional : Int
  /-- The first decimal exponent that is written with an exponent mark again. -/
  leastScientific : Int
  /-- Whether a positive exponent is written with a plus sign. -/
  plusSign : Bool

/-- The layout used wherever a number is shown: positional from `0.00001` to below `10 ^ 16`, and an
exponent with its sign otherwise. -/
def DecimalLayout.standard : DecimalLayout := ⟨-5, 16, true⟩

namespace Binary64

/-- The decimal digits and point of a positive number, for a leading digit at `10 ^ lead`. -/
def layoutDigits (layout : DecimalLayout) (digits : List Char) (lead : Int) : List Char :=
  if layout.leastPositional ≤ lead && lead < layout.leastScientific then
    if lead < 0 then
      ['0', '.'] ++ List.replicate (-lead - 1).toNat '0' ++ digits
    else
      let whole := lead.toNat + 1
      let padded := digits ++ List.replicate (whole - digits.length) '0'
      let fraction := digits.drop whole
      padded.take whole ++ ['.'] ++ (if fraction.isEmpty then ['0'] else fraction)
  else
    let mark := if lead < 0 then ['e', '-'] else if layout.plusSign then ['e', '+'] else ['e']
    let fraction := digits.drop 1
    digits.take 1 ++ (if fraction.isEmpty then [] else '.' :: fraction) ++ mark ++
      (toString lead.natAbs).toList

/-- The digits of a decimal without the zeros it ends in, at most `fuel` of them, and the exponent
raised by as many places. -/
def dropZeros : Nat → Nat × Int → Nat × Int
  | 0, d => d
  | fuel + 1, (n, e) => if n % 10 == 0 && n != 0 then dropZeros fuel (n / 10, e + 1) else (n, e)

/-- The shortest decimal text of a number, always with a fraction or an exponent. -/
def print (layout : DecimalLayout) (x : Binary64) : String :=
  let sign := if x.negative then ['-'] else []
  if x.isZero then String.ofList (sign ++ ['0', '.', '0'])
  else
    let (n, e) := dropZeros 20 x.shortest
    let digits := (toString n).toList
    String.ofList (sign ++ layoutDigits layout digits (e + digits.length - 1))

/-- The decimal text of a number in the standard layout. -/
def text (x : Binary64) : String :=
  x.print DecimalLayout.standard

end Binary64

end Sitewright
