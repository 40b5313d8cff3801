import Sitewright.Json.Basic

/-!
# Numerals

The value of a decimal numeral. The digits are gathered in a significand of at most 64 bits: once a
digit no longer fits, the remaining digits of the whole part only raise the exponent and those of
the fraction are dropped. A numeral without fraction and exponent whose digits all fit is an
integer, if its sign leaves it above `-2 ^ 63`; minus zero is not one. Everything else is a
floating-point number: the significand, rounded once, times or over a rounded power of ten, rounded
again. A numeral too large for that has no value.

That is the value in JSON. Formats that round a numeral only once take its `nearest?` number.
-/

namespace Sitewright

/-- The parts of a numeral, as digit values. -/
structure Numeral where
  /-- Whether a minus sign stands in front. -/
  negative : Bool
  /-- The digits before the point. -/
  whole : List Nat
  /-- The digits after the point, if there is one. -/
  fraction : Option (List Nat)
  /-- The exponent, if there is one: whether it is negative, and its digits. -/
  exponent : Option (Bool × List Nat)

namespace Numeral

/-- The bound of a significand. -/
def significandBound : Nat := Nat.pow 2 64

/-- The digits of a whole part in a significand: the significand, and the number of digits that no
longer fit. -/
def gatherWhole : Nat → List Nat → Nat × Nat
  | sig, [] => (sig, 0)
  | sig, d :: ds =>
    if sig * 10 + d < significandBound then gatherWhole (sig * 10 + d) ds
    else (sig, ds.length + 1)

/-- The digits of a fraction added to a significand: the significand, and the number of digits that
fit. -/
def gatherFraction : Nat → List Nat → Nat × Nat
  | sig, [] => (sig, 0)
  | sig, d :: ds =>
    if sig * 10 + d < significandBound then
      let (s, n) := gatherFraction (sig * 10 + d) ds
      (s, n + 1)
    else (sig, 0)

/-- The number that digits spell. -/
def ofDigits (digits : List Nat) : Nat :=
  digits.foldl (fun n d => n * 10 + d) 0

/-- A power of ten as a floating-point number. -/
def powerOfTen (k : Nat) : Option Binary64 := Binary64.ofNat (Nat.pow 10 k)

/-- The largest exponent of a power of ten that is representable. -/
def largestPower : Nat := 308

/-- A floating-point number times a power of ten of at most `largestPower`, or nothing if it is too
large. -/
def scaleNear (x : Binary64) (exponent : Int) : Option Binary64 :=
  (powerOfTen exponent.natAbs).bind fun power =>
    if 0 ≤ exponent then x.mul? power else x.div? power

/-- A floating-point number over `10 ^ (steps * largestPower)` and then over `10 ^ last`. -/
def scaleFar : Nat → Nat → Binary64 → Option Binary64
  | 0, last, x => scaleNear x (-last)
  | steps + 1, last, x =>
    if x.isZero then some x
    else ((powerOfTen largestPower).bind x.div?).bind fun y => scaleFar steps last y

/-- A floating-point number times a power of ten, or nothing if it is too large. What is below the
smallest representable power is taken off in steps. -/
def scale (x : Binary64) (exponent : Int) : Option Binary64 :=
  let distance := exponent.natAbs
  if distance ≤ largestPower then scaleNear x exponent
  else if x.isZero then some x
  else if 0 < exponent then none
  else
    let steps := (distance - 1) / largestPower
    scaleFar steps (distance - steps * largestPower) x

/-- The floating-point number `± significand · 10 ^ exponent`. -/
def toFloat (negative : Bool) (significand : Nat) (exponent : Int) : Option JsonNumber :=
  ((Binary64.ofNat significand).bind fun x => scale x exponent).map fun x =>
    .float (x.withSign negative)

/-- The bound of the digits of an exponent. -/
def exponentBound : Nat := Nat.pow 2 31

/-- The value of a numeral; nothing if it is too large. -/
def value (n : Numeral) : Option JsonNumber :=
  let (sig, dropped) := gatherWhole 0 n.whole
  match n.fraction, n.exponent with
  | none, none =>
    if dropped == 0 then
      if !n.negative then some (.int sig)
      else if sig == 0 || Nat.pow 2 63 < sig then toFloat true sig 0
      else some (.int (-sig))
    else toFloat n.negative sig dropped
  | fraction, exponent =>
    let (sig, taken) := gatherFraction sig (fraction.getD [])
    let start : Int := (dropped : Int) - (taken : Int)
    match exponent with
    | none => toFloat n.negative sig start
    | some (negativeExponent, digits) =>
      let e := ofDigits digits
      if exponentBound ≤ e then
        if sig != 0 && !negativeExponent then none
        else some (.float (Binary64.zero n.negative))
      else toFloat n.negative sig (if negativeExponent then start - e else start + e)

/-! ### Rounding once -/

/-- The exponent of a numeral, which is zero if none is written. -/
def tens (n : Numeral) : Int :=
  match n.exponent with
  | none => 0
  | some (negative, digits) => if negative then -(ofDigits digits : Int) else ofDigits digits

/-- The floating-point number nearest to a numeral, or nothing if it is too large. -/
def nearest? (n : Numeral) : Option Binary64 :=
  let fraction := n.fraction.getD []
  let digits := (n.whole ++ fraction).dropWhile (· == 0)
  let exponent := n.tens - fraction.length
  -- Far outside the range the powers of ten need not be written out.
  if digits.isEmpty || exponent + digits.length < -400 then some (.zero n.negative)
  else if 400 < exponent + digits.length then none
  else
    Binary64.ofQuotient n.negative (ofDigits digits * Nat.pow 10 exponent.toNat)
      (Nat.pow 10 (-exponent).toNat)

end Numeral

end Sitewright
