import SqlSyntax.Error

/-!
# Literals

A literal keeps the text it was written with; rendering writes that text unchanged.  What the
text denotes is read on demand, in this order:

* an integer: an optional sign and one or more ASCII digits, within the signed 64-bit range;
* a boolean: `TRUE` or `FALSE`, ASCII letters in either case;
* a float: an optional sign, digits with at most one point and at least one digit, and an
  optional exponent (`e` or `E`, an optional sign, digits); a point or an exponent must be
  present unless the text is an integer too large for 64 bits.  The value is the nearest
  double, infinite when too large;
* `NULL`, ASCII letters in either case;
* otherwise a string: the text without the quotes at either end.

Main statements: `isIntegerText_iff` describes integer texts, and `value_of_toInt?` says that
the integer reading comes first.
-/

namespace SqlSyntax

/-- A literal as written in SQL. -/
structure Literal where
  text : String
  deriving DecidableEq, Repr

/-- What a literal's text denotes. -/
inductive LiteralValue where
  | integer (n : Int)
  | boolean (b : Bool)
  | float (x : Float)
  | null
  | string (s : String)

namespace Literal

/-- The text with one leading sign, if any, removed. -/
def dropSign : List Char → List Char
  | '+' :: cs => cs
  | '-' :: cs => cs
  | cs => cs

/-- Every character is an ASCII digit. -/
def isDigits (cs : List Char) : Bool := cs.all Char.isDigit

/-- An optional sign followed by one or more ASCII digits. -/
def isIntegerText (cs : List Char) : Bool :=
  let ds := dropSign cs
  !ds.isEmpty && isDigits ds

/-- The parts before and after the first character satisfying `p`; the second is absent when
there is no such character. -/
def splitFirst (p : Char → Bool) : List Char → List Char × Option (List Char)
  | [] => ([], none)
  | c :: cs =>
    if p c then ([], some cs)
    else
      let (before, after) := splitFirst p cs
      (c :: before, after)

/-- A decimal number's parts: the sign, the digits before and after the point, and the
exponent's text. -/
structure Decimal where
  negative : Bool
  whole : List Char
  fraction : Option (List Char)
  exponent : Option (List Char)

/-- Splits a text into sign, whole part, fraction and exponent, without checking them. -/
def Decimal.split (cs : List Char) : Decimal :=
  let (mantissa, exponent) := splitFirst (fun c => c == 'e' || c == 'E') (dropSign cs)
  let (whole, fraction) := splitFirst (· == '.') mantissa
  { negative := cs.head? == some '-', whole, fraction, exponent }

/-- Digits, a point and digits, at least one digit in all, and an optional exponent that is an
integer text; a point or an exponent must be present. -/
def isFloatText (cs : List Char) : Bool :=
  let d := Decimal.split cs
  let fraction := d.fraction.getD []
  (!d.whole.isEmpty || !fraction.isEmpty) && isDigits d.whole && isDigits fraction &&
    d.exponent.all isIntegerText && (d.fraction.isSome || d.exponent.isSome)

/-- The value of ASCII digits read in base ten. -/
def digitsValue (cs : List Char) : Nat :=
  cs.foldl (fun n c => 10 * n + (c.toNat - '0'.toNat)) 0

/-- The value of an integer text. -/
def signedValue (cs : List Char) : Int :=
  if cs.head? == some '-' then -(digitsValue (dropSign cs) : Int) else digitsValue (dropSign cs)

/-- The double nearest to `m · 10^e`.  A value at least `10^310` is infinite and one below
`10^-330` is zero, so huge exponents never reach the exact arithmetic. -/
def scientific (m : Nat) (e : Int) : Float :=
  let width : Int := (Nat.toDigits 10 m).length
  if m = 0 then 0
  else if width + e > 310 then 1 / 0
  else if width + e < -330 then 0
  else if 0 ≤ e then Float.ofScientific m false e.toNat
  else Float.ofScientific m true (-e).toNat

/-- The double a float text denotes, rounded to nearest. -/
def Decimal.toFloat (d : Decimal) : Float :=
  let fraction := d.fraction.getD []
  let exponent := (d.exponent.map signedValue).getD 0 - fraction.length
  let magnitude := scientific (digitsValue (d.whole ++ fraction)) exponent
  if d.negative then -magnitude else magnitude

/-- The least signed 64-bit integer. -/
def minInt : Int := -9223372036854775808

/-- The greatest signed 64-bit integer. -/
def maxInt : Int := 9223372036854775807

/-- The literal read as a signed 64-bit integer, if its text is one. -/
def toInt? (l : Literal) : Option Int :=
  let cs := l.text.toList
  if isIntegerText cs then
    let n := signedValue cs
    if minInt ≤ n ∧ n ≤ maxInt then some n else none
  else none

/-- The literal read as an integer, or the error naming its text. -/
def asInteger (l : Literal) : Except SqlError Int :=
  match l.toInt? with
  | some n => .ok n
  | none => .error (.notAnInteger l.text)

/-- The text with every quote at either end removed. -/
def unquote (s : String) : String :=
  String.ofList (((s.toList.dropWhile (· == '\'')).reverse.dropWhile (· == '\'')).reverse)

/-- What the literal denotes; see the module comment for the order of the readings. -/
def value (l : Literal) : LiteralValue :=
  match l.toInt? with
  | some n => .integer n
  | none =>
    let cs := l.text.toList
    let folded := l.text.map Char.toLower
    if folded == "true" then .boolean true
    else if folded == "false" then .boolean false
    else if isFloatText cs || isIntegerText cs then .float (Decimal.split cs).toFloat
    else if folded == "null" then .null
    else .string (unquote l.text)

theorem isIntegerText_iff (cs : List Char) :
    isIntegerText cs = true ↔ dropSign cs ≠ [] ∧ ∀ c ∈ dropSign cs, c.isDigit = true := by
  simp [isIntegerText, isDigits]

theorem value_of_toInt? {l : Literal} {n : Int} (h : l.toInt? = some n) :
    l.value = .integer n := by
  simp [value, h]

end Literal

end SqlSyntax
