import Sitewright.Json.Reader

/-!
# What YAML scalars spell

The words and numbers that scalars spell. Whether a scalar is read as what it spells, or as the text
that it is, depends on how it is written and on what is asked for; here only its characters count.

A sign may stand before a number, and integers may be written in bases 2, 8 and 16; digits after a
leading zero are a text. An integer has a value if 64 bits hold it, with or without a sign. One that
takes up to 128 bits is an integer without a value, and a longer one is not an integer, so that it
may still be a floating-point number.
-/

namespace Sitewright.Yaml

/-! ### Words -/

/-- Whether characters spell the absent value. -/
def isNull (s : String) : Bool := ["~", "null", "Null", "NULL"].contains s

/-- The truth value that characters spell. -/
def truth? (s : String) : Option Bool :=
  if ["true", "True", "TRUE"].contains s then some true
  else if ["false", "False", "FALSE"].contains s then some false
  else none

/-! ### Integers -/

/-- The sign of a number, and what follows it. -/
def splitSign : List Char → Option Bool × List Char
  | '-' :: cs => (some true, cs)
  | '+' :: cs => (some false, cs)
  | cs => (none, cs)

/-- The natural number that digits of a base spell. -/
def naturalIn? (base : Nat) (cs : List Char) : Option Nat :=
  let values := cs.map fun c => (Document.hexValue? c).filter (· < base)
  if cs.isEmpty then none else (values.mapM id).map (·.foldl (fun n d => n * base + d) 0)

/-- Whether digits start with a zero that does not stand alone. -/
def hasLeadingZero (cs : List Char) : Bool :=
  cs.head? == some '0' && cs.length != 1 && cs.all Char.isDigit

/-- The natural number that characters without a sign spell. -/
def magnitude? : List Char → Option Nat
  | '0' :: 'x' :: cs => naturalIn? 16 cs
  | '0' :: 'o' :: cs => naturalIn? 8 cs
  | '0' :: 'b' :: cs => naturalIn? 2 cs
  | cs => if hasLeadingZero cs then none else naturalIn? 10 cs

/-- The natural number that characters spell. A minus sign spells none, not even before a zero. -/
def natural? (s : String) : Option Nat :=
  match splitSign s.toList with
  | (some true, _) => none
  | (_, rest) => (magnitude? rest).filter (· < Nat.pow 2 64)

/-- The integer that characters spell, of any length. -/
def integer? (s : String) : Option Int :=
  match splitSign s.toList with
  | (some true, rest) => (magnitude? rest).map fun n => -(n : Int)
  | (_, rest) => (magnitude? rest).map fun n => (n : Int)

/-- What is known of an integer by its length. -/
inductive IntegerSize where
  /-- It has a value. -/
  | held
  /-- It has no value. -/
  | tooLarge
  /-- It is not taken for an integer. -/
  | none
  deriving DecidableEq

/-- The size of an integer. -/
def IntegerSize.of (n : Int) : IntegerSize :=
  if -(Nat.pow 2 63 : Int) ≤ n && n < (Nat.pow 2 64 : Int) then held
  else if -(Nat.pow 2 127 : Int) ≤ n && n < (Nat.pow 2 128 : Int) then tooLarge
  else none

/-! ### Floating-point numbers -/

/-- The digits before and after a point, and the characters after them. -/
def splitPoint (cs : List Char) : List Nat × List Nat × List Char :=
  let (whole, rest) := Document.takeDigits cs
  match rest with
  | '.' :: rest =>
    let (fraction, rest) := Document.takeDigits rest
    (whole, fraction, rest)
  | rest => (whole, [], rest)

/-- The exponent that characters spell: nothing if they spell none, and no exponent if there are no
characters. -/
def exponent? : List Char → Option (Option (Bool × List Nat))
  | [] => some none
  | c :: cs =>
    if c == 'e' || c == 'E' then
      let (sign, digits) := splitSign cs
      match Document.takeDigits digits with
      | ([], _) => none
      | (digits, []) => some (some (sign == some true, digits))
      | _ => none
    else none

/-- Characters for numbers that are not finite. -/
def nonFinite : List String :=
  [".inf", ".Inf", ".INF", "+.inf", "+.Inf", "+.INF", "-.inf", "-.Inf", "-.INF", ".nan", ".NaN",
    ".NAN"]

/-- The finite floating-point number that characters spell. -/
def finite? (s : String) : Option Binary64 := do
  let (sign, rest) := splitSign s.toList
  let (whole, fraction, rest) := splitPoint rest
  if whole.isEmpty && fraction.isEmpty then none
  else
    let exponent ← exponent? rest
    Numeral.nearest? ⟨sign == some true, whole, some fraction, exponent⟩

/-- The value of the floating-point number that characters spell. One that is not finite counts as
the absent value. -/
def float? (s : String) : Option Document :=
  if nonFinite.contains s then some .null else (finite? s).map fun x => .num (.float x)

/-! ### Values -/

/-- The value of the integer that characters spell. -/
def integerValue? (s : String) : Option Document :=
  (integer? s).bind fun n => if IntegerSize.of n = .held then some (.num (.int n)) else none

/-- The value that plain characters spell where no kind is asked for, or nothing for an integer that
has no value. -/
def plainValue? (s : String) : Option Document :=
  if s.isEmpty || isNull s then some .null
  else
    match truth? s with
    | some b => some (.bool b)
    | none =>
      match (integer? s).map fun n => (n, IntegerSize.of n) with
      | some (n, .held) => some (.num (.int n))
      | some (_, .tooLarge) => none
      | _ =>
        if hasLeadingZero (splitSign s.toList).2 then some (.str s)
        else some ((float? s).getD (.str s))

end Sitewright.Yaml
