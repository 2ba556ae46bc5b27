import SqlSyntax.Json.Value
import SqlSyntax.Literal

/-!
# JSON text

Reading a `JsonValue` from JSON text and writing one back.

The reader takes the grammar of RFC 8259 with these decisions:

* blanks between tokens are space, tab, line feed and carriage return, and nothing else;
* a number without fraction and exponent that fits a signed or an unsigned 64-bit word is an
  integer; every other number is a float, and one whose nearest double is infinite is refused;
* a string holds no raw control character, and a `\u` escape of a UTF-16 surrogate must be a
  high surrogate directly followed by an escaped low one;
* an object keeps its members in ascending order of their keys, and of a repeated key the last
  value counts, as in a map;
* nothing but blanks may follow the value.

The writer escapes the quote, the backslash and the control characters of a string, and writes
a float as its decimal digits and exponent, which reads back as the same double.
-/

namespace SqlSyntax

namespace JsonText

/-! ## Leaves -/

/-- The four blanks that may stand between tokens. -/
def isBlank (c : Char) : Bool := c == ' ' || c == '\t' || c == '\n' || c == '\r'

/-- The text after its leading blanks. -/
def skipBlank (cs : List Char) : List Char := cs.dropWhile isBlank

/-- The value of a hexadecimal digit. -/
def hexDigit? (c : Char) : Option Nat :=
  if '0' ≤ c ∧ c ≤ '9' then some (c.toNat - '0'.toNat)
  else if 'a' ≤ c ∧ c ≤ 'f' then some (c.toNat - 'a'.toNat + 10)
  else if 'A' ≤ c ∧ c ≤ 'F' then some (c.toNat - 'A'.toNat + 10)
  else none

/-- The value of four hexadecimal digits. -/
def hex4? (a b c d : Char) : Option Nat := do
  return (((← hexDigit? a) * 16 + (← hexDigit? b)) * 16 + (← hexDigit? c)) * 16 + (← hexDigit? d)

/-- A UTF-16 high surrogate. -/
def isHighSurrogate (n : Nat) : Bool := 0xD800 ≤ n && n ≤ 0xDBFF

/-- A UTF-16 low surrogate. -/
def isLowSurrogate (n : Nat) : Bool := 0xDC00 ≤ n && n ≤ 0xDFFF

/-- The character of a one-letter escape. -/
def simpleEscape? : Char → Option Char
  | '"' => some '"'
  | '\\' => some '\\'
  | '/' => some '/'
  | 'b' => some '\x08'
  | 'f' => some '\x0c'
  | 'n' => some '\n'
  | 'r' => some '\r'
  | 't' => some '\t'
  | _ => none

/-- The rest of a string after its opening quote: the characters up to the closing quote, with
the escapes resolved, and the text after it. -/
def readString : List Char → String → Option (String × List Char)
  | [], _ => none
  | '"' :: rest, acc => some (acc, rest)
  | '\\' :: 'u' :: a :: b :: c :: d :: rest, acc =>
    match hex4? a b c d with
    | none => none
    | some n =>
      if isHighSurrogate n then
        match rest with
        | '\\' :: 'u' :: e :: f :: g :: h :: rest' =>
          match hex4? e f g h with
          | some m =>
            if isLowSurrogate m then
              readString rest' (acc.push (Char.ofNat (0x10000 + (n - 0xD800) * 0x400 + (m - 0xDC00))))
            else none
          | none => none
        | _ => none
      else if isLowSurrogate n then none
      else readString rest (acc.push (Char.ofNat n))
  | '\\' :: e :: rest, acc =>
    match simpleEscape? e with
    | some c => readString rest (acc.push c)
    | none => none
  | c :: rest, acc => if c.toNat < 0x20 then none else readString rest (acc.push c)

/-- The digits at the front of a text and what follows them. -/
def spanDigits (cs : List Char) : List Char × List Char :=
  (cs.takeWhile Char.isDigit, cs.dropWhile Char.isDigit)

/-- The integer part of a number: `0` alone, or a digit other than `0` and the digits after it. -/
def readWhole : List Char → Option (List Char × List Char)
  | '0' :: rest =>
    match rest with
    | c :: _ => if c.isDigit then none else some (['0'], rest)
    | [] => some (['0'], [])
  | c :: rest =>
    if c.isDigit then
      let (ds, after) := spanDigits rest
      some (c :: ds, after)
    else none
  | [] => none

/-- The fraction of a number: absent, or a point and at least one digit. -/
def readFraction : List Char → Option (List Char × List Char)
  | '.' :: rest =>
    let (ds, after) := spanDigits rest
    if ds.isEmpty then none else some (ds, after)
  | cs => some ([], cs)

/-- The exponent of a number: absent, or `e` or `E`, an optional sign and at least one digit. -/
def readExponent (cs : List Char) : Option (Option Int × List Char) :=
  let signed (rest : List Char) : Option (Option Int × List Char) :=
    let (ds, after) := spanDigits (Literal.dropSign rest)
    let magnitude : Int := Literal.digitsValue ds
    if ds.isEmpty then none
    else some (some (if rest.head? == some '-' then -magnitude else magnitude), after)
  match cs with
  | 'e' :: rest => signed rest
  | 'E' :: rest => signed rest
  | _ => some (none, cs)

/-- The greatest magnitude of a negative integer, `2 ^ 63`. -/
def negativeBound : Nat := 9223372036854775808

/-- The number a sign, integer part, fraction and exponent stand for: an integer when there is
neither fraction nor exponent and the value fits 64 bits, else a float, refused when its
nearest double is infinite. -/
def numberValue (negative : Bool) (whole fraction : List Char) (exponent : Option Int) :
    Option JsonValue :=
  let digits := Literal.digitsValue (whole ++ fraction)
  let fitsInteger : Bool :=
    if negative then 1 ≤ digits && digits ≤ negativeBound else digits ≤ JsonValue.u64Max
  if fraction.isEmpty && exponent.isNone && fitsInteger then
    some (.integer (if negative then -(digits : Int) else digits))
  else
    let e := exponent.getD 0 - fraction.length
    if (Literal.scientific digits e).isInf then none else some (.float negative digits e)

/-- A number at the front of a text, and the text after it. -/
def readNumber (cs : List Char) : Option (JsonValue × List Char) := do
  let (negative, unsigned) := match cs with
    | '-' :: rest => (true, rest)
    | _ => (false, cs)
  let (whole, r₁) ← readWhole unsigned
  let (fraction, r₂) ← readFraction r₁
  let (exponent, r₃) ← readExponent r₂
  return (← numberValue negative whole fraction exponent, r₃)

/-- The members of an object with one more member: its key keeps the keys ascending, and a key
already present has its value replaced. -/
def insertMember (k : String) (v : JsonValue) : JsonObject → JsonObject
  | [] => [(k, v)]
  | (k', v') :: fs =>
    if k = k' then (k, v) :: fs
    else if k < k' then (k, v) :: (k', v') :: fs
    else (k', v') :: insertMember k v fs

/-! ## Values -/

mutual

/-- A value at the front of a text, after any blanks, and the text after it.  Every call takes
one unit of fuel and reads at least one character, so the length of the text suffices. -/
def readValue : Nat → List Char → Option (JsonValue × List Char)
  | 0, _ => none
  | n + 1, cs =>
    match skipBlank cs with
    | '{' :: rest =>
      match skipBlank rest with
      | '}' :: after => some (.object [], after)
      | _ => readMembers n rest []
    | '[' :: rest =>
      match skipBlank rest with
      | ']' :: after => some (.array [], after)
      | _ => readItems n rest []
    | '"' :: rest =>
      match readString rest "" with
      | some (s, after) => some (.string s, after)
      | none => none
    | 't' :: 'r' :: 'u' :: 'e' :: after => some (.bool true, after)
    | 'f' :: 'a' :: 'l' :: 's' :: 'e' :: after => some (.bool false, after)
    | 'n' :: 'u' :: 'l' :: 'l' :: after => some (.null, after)
    | other => readNumber other

/-- The items of an array after its opening bracket, those already read in reverse order. -/
def readItems : Nat → List Char → List JsonValue → Option (JsonValue × List Char)
  | 0, _, _ => none
  | n + 1, cs, acc =>
    match readValue n cs with
    | none => none
    | some (v, rest) =>
      match skipBlank rest with
      | ',' :: after => readItems n after (v :: acc)
      | ']' :: after => some (.array (v :: acc).reverse, after)
      | _ => none

/-- The members of an object after its opening brace, those already read kept as a map. -/
def readMembers : Nat → List Char → JsonObject → Option (JsonValue × List Char)
  | 0, _, _ => none
  | n + 1, cs, acc =>
    match skipBlank cs with
    | '"' :: rest =>
      match readString rest "" with
      | none => none
      | some (k, rest) =>
        match skipBlank rest with
        | ':' :: rest =>
          match readValue n rest with
          | none => none
          | some (v, rest) =>
            match skipBlank rest with
            | ',' :: after => readMembers n after (insertMember k v acc)
            | '}' :: after => some (.object (insertMember k v acc), after)
            | _ => none
        | _ => none
    | _ => none

end

/-! ## Writing -/

/-- The four hexadecimal digits of a number below `0x10000`, lower case. -/
def hex4 (n : Nat) : String :=
  let digit (k : Nat) : Char := Nat.digitChar (n / k % 16)
  String.ofList [digit 4096, digit 256, digit 16, digit 1]

/-- A character as it stands inside a written string. -/
def escape (c : Char) : String :=
  match c with
  | '"' => "\\\""
  | '\\' => "\\\\"
  | '\n' => "\\n"
  | '\r' => "\\r"
  | '\t' => "\\t"
  | '\x08' => "\\b"
  | '\x0c' => "\\f"
  | c => if c.toNat < 0x20 then "\\u" ++ hex4 c.toNat else c.toString

/-- A string in quotes, written after `acc`. -/
def writeString (acc s : String) : String :=
  (s.foldl (fun a c => a ++ escape c) (acc.push '"')).push '"'

/-- A number's text: an integer in decimal, a float as its digits and exponent. -/
def numberText : JsonValue → String
  | .integer n => toString n
  | .float negative digits exponent =>
    (if negative then "-" else "") ++ toString digits ++ "e" ++ toString exponent
  | _ => ""

mutual

/-- A value written compactly after `acc`. -/
def write (acc : String) : JsonValue → String
  | .null => acc ++ "null"
  | .bool b => acc ++ (if b then "true" else "false")
  | .integer n => acc ++ numberText (.integer n)
  | .float s d e => acc ++ numberText (.float s d e)
  | .string s => writeString acc s
  | .array items => (writeItems (acc.push '[') true items).push ']'
  | .object fields => (writeMembers (acc.push '{') true fields).push '}'

/-- The items of an array, separated by commas. -/
def writeItems (acc : String) (first : Bool) : List JsonValue → String
  | [] => acc
  | v :: vs => writeItems (write (if first then acc else acc.push ',') v) false vs

/-- The members of an object, separated by commas. -/
def writeMembers (acc : String) (first : Bool) : List (String × JsonValue) → String
  | [] => acc
  | (k, v) :: fs =>
    writeMembers (write ((writeString (if first then acc else acc.push ',') k).push ':') v) false fs

end

end JsonText

namespace JsonValue

/-- The value a JSON text holds, if it holds exactly one, with blanks around it allowed. -/
def ofText? (s : String) : Option JsonValue :=
  let cs := s.toList
  match JsonText.readValue (cs.length + 1) cs with
  | some (v, rest) => if (JsonText.skipBlank rest).isEmpty then some v else none
  | none => none

/-- The value as compact JSON text. -/
def toText (j : JsonValue) : String := JsonText.write "" j

end JsonValue

end SqlSyntax
