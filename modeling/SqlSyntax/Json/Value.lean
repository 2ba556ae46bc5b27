import SqlSyntax.Keyword

/-!
# JSON values

Syntax trees are exchanged as JSON in the externally tagged layout: a structure is an object
with one member per field, a variant without content is its name as a string, and a variant
with content is an object whose only key is the variant's name.  This module holds the value
type, its nesting depth, and the readers and writers the tree codecs are built from.

Readers answer `none` for a value of the wrong shape.  A number is an integer when it is written
without fraction and exponent and fits a signed or an unsigned 64-bit word; every other number
is a float, and no integer field takes a float, not even `1.0` or `1e2`.  An absent optional
member reads as `none`, and so does an explicit `null`; members the reader does not ask for are
ignored.

The decoders of recursive trees take a fuel argument; `JsonValue.decode` starts them with one
more than the value's depth, which suffices because every recursive reader descends into a
member or element before it calls the next one.
-/

namespace SqlSyntax

/-- A JSON value. -/
inductive JsonValue where
  | null
  | bool (b : Bool)
  /-- A number written as an integer within the signed or unsigned 64-bit range. -/
  | integer (n : Int)
  /-- Any other number, standing for the double nearest to it and kept as the decimal it was
  written as: `digits * 10 ^ exponent`, negative when `negative` holds. -/
  | float (negative : Bool) (digits : Nat) (exponent : Int)
  | string (s : String)
  | array (items : List JsonValue)
  | object (fields : List (String × JsonValue))
  deriving Inhabited, Repr

/-- The members of a JSON object, in order. -/
abbrev JsonObject := List (String × JsonValue)

namespace JsonValue

mutual

/-- Nesting depth: a scalar has depth 0, an array or object one more than its deepest item. -/
def depth : JsonValue → Nat
  | .null => 0
  | .bool _ => 0
  | .integer _ => 0
  | .float _ _ _ => 0
  | .string _ => 0
  | .array items => depthList items + 1
  | .object fields => depthFields fields + 1

/-- The greatest depth of the items of a list, 0 for none. -/
def depthList : List JsonValue → Nat
  | [] => 0
  | v :: vs => max v.depth (depthList vs)

/-- The greatest depth of the members of an object, 0 for none. -/
def depthFields : List (String × JsonValue) → Nat
  | [] => 0
  | (_, v) :: fs => max v.depth (depthFields fs)

end

/-- Runs a fuelled decoder with enough fuel for the value. -/
def decode {α : Type} (r : Nat → JsonValue → Option α) (j : JsonValue) : Option α :=
  r (j.depth + 1) j

/-! ## Readers -/

/-- The members of an object. -/
def members? : JsonValue → Option JsonObject
  | .object fields => some fields
  | _ => none

/-- The members of a record with the given fields: an object as it stands, or an array holding
one value for every field, in the order the fields are declared.  An array of any other length
is no record. -/
def fields? (names : List String) : JsonValue → Option JsonObject
  | .object fields => some fields
  | .array items => if items.length = names.length then some (names.zip items) else none
  | _ => none

/-- A string. -/
def str? : JsonValue → Option String
  | .string s => some s
  | _ => none

/-- A boolean. -/
def bool? : JsonValue → Option Bool
  | .bool b => some b
  | _ => none

/-- A natural number up to a bound, written as an integer. -/
def natUpTo? (bound : Nat) : JsonValue → Option Nat
  | .integer m => if 0 ≤ m ∧ m.toNat ≤ bound then some m.toNat else none
  | _ => none

/-- The largest unsigned 64-bit integer. -/
def u64Max : Nat := 18446744073709551615

/-- The largest unsigned 32-bit integer. -/
def u32Max : Nat := 4294967295

/-- An unsigned 64-bit integer. -/
def u64? : JsonValue → Option Nat := natUpTo? u64Max

/-- An unsigned 32-bit integer. -/
def u32? : JsonValue → Option Nat := natUpTo? u32Max

/-- An array, each item read by `r`. -/
def list? {α : Type} (r : JsonValue → Option α) : JsonValue → Option (List α)
  | .array items => items.mapM r
  | _ => none

/-- The content of a unit: `null`. -/
def unit? : JsonValue → Option Unit
  | .null => some ()
  | _ => none

/-- A tagged variant with content: an object with exactly one member. -/
def tagged? : JsonValue → Option (String × JsonValue)
  | .object [(k, v)] => some (k, v)
  | _ => none

/-- A variant that may come without content: a bare name stands for content `null`. -/
def variant? : JsonValue → Option (String × JsonValue)
  | .string s => some (s, .null)
  | j => tagged? j

/-- A pair given as a two-item array. -/
def pair? {α β : Type} (r : JsonValue → Option α) (s : JsonValue → Option β) :
    JsonValue → Option (α × β)
  | .array [a, b] => do return (← r a, ← s b)
  | _ => none

end JsonValue

namespace JsonObject

/-- The member under a key. -/
def find? (fs : JsonObject) (k : String) : Option JsonValue := (List.lookup k fs)

/-- A member that must be present, read by `r`. -/
def req {α : Type} (fs : JsonObject) (k : String) (r : JsonValue → Option α) : Option α := do
  r (← fs.find? k)

/-- A member that may be absent or `null`, read by `r` when present. -/
def opt {α : Type} (fs : JsonObject) (k : String) (r : JsonValue → Option α) : Option (Option α) :=
  match fs.find? k with
  | none => some none
  | some .null => some none
  | some v => (r v).map some

end JsonObject

/-! ## Writers -/

namespace JsonValue

/-- A variant with content. -/
def tag (name : String) (v : JsonValue) : JsonValue := .object [(name, v)]

/-- A natural number. -/
def nat (n : Nat) : JsonValue := .integer n

/-- An integer. -/
def int (n : Int) : JsonValue := .integer n

/-- An optional value, `null` when absent. -/
def option {α : Type} (f : α → JsonValue) : Option α → JsonValue
  | none => .null
  | some a => f a

/-- A list of values. -/
def list {α : Type} (f : α → JsonValue) (xs : List α) : JsonValue := .array (xs.map f)

end JsonValue

/-! ## Enumerations -/

/-- An enumeration written as the names of its variants. -/
class VariantNames (α : Type) where
  /-- Every value, in declaration order. -/
  all : List α
  /-- The name a value is written as. -/
  name : α → String

namespace VariantNames

/-- The value written as a name, read from a bare name or from a name with `null` content. -/
def read? {α : Type} [VariantNames α] (j : JsonValue) : Option α := do
  let (tag, content) ← j.variant?
  content.unit?
  (all : List α).find? (name · == tag)

/-- The value's name as a JSON string. -/
def write {α : Type} [VariantNames α] (a : α) : JsonValue := .string (name a)

end VariantNames

end SqlSyntax
