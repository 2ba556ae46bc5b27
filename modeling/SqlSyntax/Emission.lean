import SqlSyntax.Keyword
import SqlSyntax.Error

/-!
# Emissions

Rendering writes text left to right and may stop at a fault; what it wrote up to the fault
stays written.  An `Emission` is that outcome as a value: the text and the fault, if any.
Emissions concatenate like text, except that nothing is added after a fault, so the first fault
met left to right is the one reported.

Because an emission is a value rather than a change to a buffer, rendering a node gives the
same emission wherever it is written; a writer only appends it (`Writer.node`).

Main statements: `append_assoc` and `empty_append`/`append_empty` make emissions a monoid, and
`text_sepBy` says what a separated list writes when every item succeeds.
-/

namespace SqlSyntax

/-- What rendering writes: the text, and the fault that stopped it, if any. -/
structure Emission where
  text : String
  fault : Option SqlError := none
  deriving DecidableEq, Repr

namespace Emission

/-- Writes a text and succeeds. -/
def ofString (s : String) : Emission := ⟨s, none⟩

instance : Coe String Emission := ⟨ofString⟩

/-- Writes nothing and succeeds. -/
def empty : Emission := ofString ""

/-- Writes nothing and fails. -/
def fail (e : SqlError) : Emission := ⟨"", some e⟩

/-- The first emission, followed by the second unless the first stopped at a fault. -/
def append (a b : Emission) : Emission :=
  match a.fault with
  | some _ => a
  | none => ⟨a.text ++ b.text, b.fault⟩

instance : Append Emission := ⟨append⟩

/-- An emission succeeds when it met no fault. -/
def ok (e : Emission) : Bool := e.fault.isNone

/-- The outcome a caller of a render sees: the text if nothing failed, else the fault. -/
def result (e : Emission) : Except SqlError String :=
  match e.fault with
  | some f => .error f
  | none => .ok e.text

/-- Writes a keyword, or fails writing nothing when the dialect lacks it. -/
def keyword {α : Type} [Keyword α] (d : Dialect) (k : α) : Emission :=
  if Keyword.supports d k then ofString (Keyword.spelling k)
  else fail (.unsupportedFeature (Keyword.spelling k) d)

/-- Writes an operand under an operator of tier `operator`: an operand of tier `operand` binds
tightly enough when its tier is no looser; otherwise nothing is written and the render
fails. -/
def operand (operator operand : Tier) (body : Emission) : Emission :=
  if operand ≤ operator then body else fail (.looseOperand operand operator)

/-- The items with the separator between each two of them; nothing follows the first
failing item. -/
def sepBy (sep : String) : List Emission → Emission
  | [] => empty
  | [e] => e
  | e :: es => e ++ ofString sep ++ sepBy sep es

/-- Each item after the prefix, in order; nothing follows the first failing item. -/
def prefixEach (pre : String) : List Emission → Emission
  | [] => empty
  | e :: es => ofString pre ++ e ++ prefixEach pre es

/-- The items one after another. -/
def concat (es : List Emission) : Emission := prefixEach "" es

/-- A present part after the prefix; nothing for an absent one. -/
def after (pre : String) : Option Emission → Emission
  | none => empty
  | some e => ofString pre ++ e

/-- Writes the part when the flag is set, else nothing. -/
def when (b : Bool) (e : Emission) : Emission := if b then e else empty

@[simp] theorem text_ofString (s : String) : (ofString s).text = s := rfl

@[simp] theorem fault_ofString (s : String) : (ofString s).fault = none := rfl

theorem append_def (a b : Emission) : a ++ b = append a b := rfl

@[simp] theorem fail_append (f : SqlError) (b : Emission) : fail f ++ b = fail f := rfl

theorem append_of_fault {a : Emission} {f : SqlError} (h : a.fault = some f) (b : Emission) :
    a ++ b = a := by
  simp [append_def, append, h]

theorem append_of_ok {a : Emission} (h : a.fault = none) (b : Emission) :
    a ++ b = ⟨a.text ++ b.text, b.fault⟩ := by
  simp [append_def, append, h]

@[simp] theorem empty_append (b : Emission) : empty ++ b = b := by
  simp [append_def, append, empty, ofString]

@[simp] theorem append_empty (a : Emission) : a ++ empty = a := by
  cases a with
  | mk t f => cases f <;> simp [append_def, append, empty, ofString]

theorem append_assoc (a b c : Emission) : a ++ b ++ c = a ++ (b ++ c) := by
  cases a with
  | mk ta fa =>
    cases fa with
    | some f => rfl
    | none =>
      cases b with
      | mk tb fb =>
        cases fb with
        | some f => simp [append_def, append]
        | none => simp [append_def, append, String.append_assoc]

instance : Std.Associative (α := Emission) (· ++ ·) := ⟨append_assoc⟩

@[simp] theorem ofString_append_ofString (s t : String) :
    ofString s ++ ofString t = ofString (s ++ t) := rfl

theorem sepBy_cons_cons (sep : String) (e e' : Emission) (es : List Emission) :
    sepBy sep (e :: e' :: es) = e ++ ofString sep ++ sepBy sep (e' :: es) := rfl

/-- A separated list of items that all succeed writes their texts with the separator between
each two of them. -/
theorem text_sepBy (sep : String) (es : List Emission) (h : ∀ e ∈ es, e.fault = none) :
    (sepBy sep es).text = sep.intercalate (es.map text) ∧ (sepBy sep es).fault = none := by
  induction es with
  | nil => simp [sepBy, empty, ofString]
  | cons e es ih =>
    have he : e.fault = none := h e (by simp)
    have hs : ∀ x ∈ es, x.fault = none := fun x hx => h x (by simp [hx])
    cases es with
    | nil => simp [sepBy, he]
    | cons e' es' =>
      obtain ⟨ht, hf⟩ := ih hs
      rw [sepBy_cons_cons, append_of_ok he, append_of_ok (by simp), ofString]
      simp only [List.map_cons, String.intercalate_cons_cons] at ht ⊢
      simp [ht, hf, String.append_assoc]

end Emission

end SqlSyntax
