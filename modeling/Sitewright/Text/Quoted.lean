import Sitewright.Text.Class

/-!
# Quoted text

The form in which a report shows a text it did not expect: between double quotes, with a backslash
before quotes and backslashes, short escapes for the usual controls, and a code point in braces for
every other character that has no printed form of its own.
-/

namespace Sitewright.Text

/-- The lower-case hexadecimal digit of a number below sixteen. -/
def hexDigit (n : Nat) : Char :=
  if n < 10 then Char.ofNat (48 + n) else Char.ofNat (87 + n)

/-- The last `width` hexadecimal digits of a number. -/
def hexFixed : Nat → Nat → List Char
  | 0, _ => []
  | width + 1, n => hexFixed width (n / 16) ++ [hexDigit (n % 16)]

@[simp] theorem length_hexFixed (width n : Nat) : (hexFixed width n).length = width := by
  induction width generalizing n with
  | zero => rfl
  | succ width ih => simp [hexFixed, ih]

/-- The hexadecimal digits of a code point, as few as are needed. -/
def hexShort (n : Nat) : List Char :=
  match (hexFixed 6 n).dropWhile (· == '0') with
  | [] => ['0']
  | digits => digits

/-- One character inside double quotes. -/
def quoteChar (c : Char) : List Char :=
  match c with
  | '\x00' => ['\\', '0']
  | '\t' => ['\\', 't']
  | '\r' => ['\\', 'r']
  | '\n' => ['\\', 'n']
  | '"' => ['\\', '"']
  | '\\' => ['\\', '\\']
  | c =>
    if isPrintable c then [c]
    else ['\\', 'u', '\x7b'] ++ hexShort c.toNat ++ ['\x7d']

/-- A text between double quotes, as a report shows it. -/
def quoted (s : String) : String :=
  String.ofList ('"' :: s.toList.flatMap quoteChar ++ ['"'])

end Sitewright.Text
