import Mathlib.Tactic.Lemma
import Mathlib.Tactic.GCongr
import Mathlib.Data.List.Forall2
import SqlSyntax.Emission

/-!
# Emissions: success, faults and renamed faults

Every renderer is assembled from a handful of emission combinators: plain text, a keyword the
dialect may lack, an operand checked against its operator's tier, separated and prefixed lists,
optional parts and parts written only under a flag.  Statements about whole trees are built
from three facts about each combinator, stated here once:

* when the combined emission succeeds (`ok_append`, `ok_operand`, `ok_sepBy`, ...), as `simp`
  lemmas that turn the success of a render into a conjunction of the checks it passed;
* which faults it can stop at, as closure rules for `FaultIn`: a combination stops only at a
  fault one of its parts stops at, or at the fault of its own check;
* how renaming faults passes through it (`mapFault_append`, ...): text is untouched and a
  renamed part renames the whole;
* that it keeps `Cut`, the relation between an emission and the same one written with more
  levels to spend: a part that did not run out of levels is unchanged, and a combination of
  such parts is too (`Cut.append`, ...), as `gcongr` rules.

Nothing here mentions a syntax tree; the tree-wide statements live beside the renderers they
are about.
-/

namespace SqlSyntax

namespace Emission

/-! ## Success -/

@[simp] lemma ok_ofString (s : String) : (ofString s).ok = true := rfl

@[simp] lemma ok_fail (f : SqlError) : (fail f).ok = false := rfl

@[simp] lemma ok_empty : empty.ok = true := rfl

@[simp] lemma ok_append (a b : Emission) : (a ++ b).ok = (a.ok && b.ok) := by
  rcases a with ⟨ta, _ | fa⟩ <;> simp [append_def, append, ok]

@[simp] lemma ok_keyword {α : Type} [Keyword α] (d : Dialect) (k : α) :
    (keyword d k).ok = Keyword.supports d k := by
  unfold keyword
  split <;> simp_all

@[simp] lemma ok_operand (p t : Tier) (body : Emission) :
    (operand p t body).ok = (decide (t ≤ p) && body.ok) := by
  unfold operand
  split <;> simp_all

@[simp] lemma ok_sepBy (sep : String) (es : List Emission) :
    (sepBy sep es).ok = es.all ok := by
  induction es with
  | nil => rfl
  | cons e es ih =>
    cases es with
    | nil => simp [sepBy]
    | cons e' es' => simp [sepBy_cons_cons, ih]

@[simp] lemma ok_prefixEach (pre : String) (es : List Emission) :
    (prefixEach pre es).ok = es.all ok := by
  induction es with
  | nil => rfl
  | cons e es ih => simp [prefixEach, ih]

@[simp] lemma ok_concat (es : List Emission) : (concat es).ok = es.all ok :=
  ok_prefixEach "" es

@[simp] lemma ok_after (pre : String) (e : Option Emission) :
    (after pre e).ok = e.all ok := by
  cases e <;> simp [after]

@[simp] lemma ok_when (c : Bool) (e : Emission) : (when c e).ok = (!c || e.ok) := by
  cases c <;> simp [when]

/-- A caller sees text exactly when the emission succeeded. -/
lemma exists_result_eq_ok (e : Emission) : (∃ s, e.result = .ok s) ↔ e.ok = true := by
  rcases e with ⟨t, _ | f⟩ <;> simp [result, ok]

@[simp] lemma result_eq_ok (e : Emission) (t : String) :
    e.result = .ok t ↔ e.fault = none ∧ e.text = t := by
  rcases e with ⟨t', _ | f⟩ <;> simp [result]

@[simp] lemma result_eq_error (e : Emission) (f : SqlError) :
    e.result = .error f ↔ e.fault = some f := by
  rcases e with ⟨t, _ | f'⟩ <;> simp [result]

/-! ## Which faults an emission can stop at -/

/-- Every fault the emission stops at satisfies `S`; an emission that succeeds satisfies this
for every `S`. -/
def FaultIn (S : SqlError → Prop) (e : Emission) : Prop :=
  ∀ f, e.fault = some f → S f

namespace FaultIn

variable {S : SqlError → Prop}

lemma mono {S' : SqlError → Prop} {e : Emission} (h : FaultIn S e) (hS : ∀ f, S f → S' f) :
    FaultIn S' e :=
  fun f hf => hS f (h f hf)

lemma of_ok {e : Emission} (h : e.ok = true) : FaultIn S e := by
  intro f hf
  simp [ok, hf] at h

lemma ofString (s : String) : FaultIn S (ofString s) := of_ok (ok_ofString s)

lemma empty : FaultIn S empty := of_ok ok_empty

lemma fail {f : SqlError} (h : S f) : FaultIn S (fail f) := by
  rintro f' ⟨⟩
  exact h

/-- A combination stops at the first part's fault, or at the second's once the first went
through. -/
lemma append {a b : Emission} (ha : FaultIn S a) (hb : FaultIn S b) : FaultIn S (a ++ b) := by
  intro f hf
  rcases a with ⟨ta, _ | fa⟩
  · exact hb f (by simpa [append_def, Emission.append] using hf)
  · exact ha f (by simpa [append_def, Emission.append] using hf)

lemma keyword {α : Type} [Keyword α] {d : Dialect} {k : α}
    (h : Keyword.supports d k = false → S (.unsupportedFeature (Keyword.spelling k) d)) :
    FaultIn S (Emission.keyword d k) := by
  unfold Emission.keyword
  split
  · exact ofString _
  · exact fail (h (by simp_all))

lemma operand {p t : Tier} {body : Emission} (hloose : ¬ t ≤ p → S (.looseOperand t p))
    (hbody : FaultIn S body) : FaultIn S (Emission.operand p t body) := by
  unfold Emission.operand
  split
  · exact hbody
  · exact fail (hloose ‹_›)

lemma sepBy {sep : String} {es : List Emission} (h : ∀ e ∈ es, FaultIn S e) :
    FaultIn S (Emission.sepBy sep es) := by
  induction es with
  | nil => exact empty
  | cons e es ih =>
    have he : FaultIn S e := h e (by simp)
    have hes : FaultIn S (Emission.sepBy sep es) := ih (fun x hx => h x (by simp [hx]))
    cases es with
    | nil => exact he
    | cons e' es' =>
      rw [sepBy_cons_cons]
      exact (he.append (ofString sep)).append hes

lemma prefixEach {pre : String} {es : List Emission} (h : ∀ e ∈ es, FaultIn S e) :
    FaultIn S (Emission.prefixEach pre es) := by
  induction es with
  | nil => exact empty
  | cons e es ih =>
    exact ((ofString pre).append (h e (by simp))).append (ih fun x hx => h x (by simp [hx]))

lemma concat {es : List Emission} (h : ∀ e ∈ es, FaultIn S e) : FaultIn S (Emission.concat es) :=
  prefixEach h

lemma after {pre : String} {e : Option Emission} (h : ∀ x ∈ e, FaultIn S x) :
    FaultIn S (Emission.after pre e) := by
  cases e with
  | none => exact empty
  | some x => exact (ofString pre).append (h x rfl)

lemma when {c : Bool} {e : Emission} (h : FaultIn S e) : FaultIn S (Emission.when c e) := by
  cases c
  · exact empty
  · exact h

end FaultIn

/-! ## Renaming faults -/

/-- The same text, with the fault, if any, renamed by `g`. -/
def mapFault (g : SqlError → SqlError) (e : Emission) : Emission := ⟨e.text, e.fault.map g⟩

section mapFault

variable (g : SqlError → SqlError)

@[simp] lemma mapFault_ofString (s : String) : mapFault g (ofString s) = ofString s := rfl

@[simp] lemma mapFault_fail (f : SqlError) : mapFault g (fail f) = fail (g f) := rfl

@[simp] lemma mapFault_empty : mapFault g empty = empty := rfl

@[simp] lemma mapFault_append (a b : Emission) :
    mapFault g (a ++ b) = mapFault g a ++ mapFault g b := by
  rcases a with ⟨ta, _ | fa⟩ <;> rfl

/-- A keyword's only fault is the dialect lacking it, so a renaming that keeps that fault
keeps the keyword. -/
@[simp] lemma mapFault_keyword {α : Type} [Keyword α] (d : Dialect) (k : α)
    (h : g (.unsupportedFeature (Keyword.spelling k) d) = .unsupportedFeature (Keyword.spelling k) d) :
    mapFault g (keyword d k) = keyword d k := by
  unfold keyword
  split
  · rfl
  · simp [h]

@[simp] lemma mapFault_operand (p t : Tier) (body : Emission)
    (h : g (.looseOperand t p) = .looseOperand t p) :
    mapFault g (operand p t body) = operand p t (mapFault g body) := by
  unfold operand
  split
  · rfl
  · simp [h]

@[simp] lemma mapFault_sepBy (sep : String) (es : List Emission) :
    mapFault g (sepBy sep es) = sepBy sep (es.map (mapFault g)) := by
  induction es with
  | nil => rfl
  | cons e es ih =>
    cases es with
    | nil => rfl
    | cons e' es' => simp only [sepBy_cons_cons, mapFault_append, ih, List.map_cons, mapFault_ofString]

@[simp] lemma mapFault_prefixEach (pre : String) (es : List Emission) :
    mapFault g (prefixEach pre es) = prefixEach pre (es.map (mapFault g)) := by
  induction es with
  | nil => rfl
  | cons e es ih => simp [prefixEach, ih]

@[simp] lemma mapFault_concat (es : List Emission) :
    mapFault g (concat es) = concat (es.map (mapFault g)) :=
  mapFault_prefixEach g "" es

@[simp] lemma mapFault_after (pre : String) (e : Option Emission) :
    mapFault g (after pre e) = after pre (e.map (mapFault g)) := by
  cases e <;> simp [after]

@[simp] lemma mapFault_when (c : Bool) (e : Emission) :
    mapFault g (when c e) = when c (mapFault g e) := by
  cases c <;> rfl

@[simp] lemma mapFault_ite (c : Prop) [Decidable c] (a b : Emission) :
    mapFault g (if c then a else b) = if c then mapFault g a else mapFault g b := by
  split <;> rfl

/-- A renaming does not touch an emission that succeeded. -/
lemma mapFault_of_ok {e : Emission} (h : e.ok = true) : mapFault g e = e := by
  rcases e with ⟨t, _ | f⟩
  · rfl
  · simp [ok] at h

@[simp] lemma text_mapFault (e : Emission) : (mapFault g e).text = e.text := rfl

@[simp] lemma fault_mapFault (e : Emission) : (mapFault g e).fault = e.fault.map g := rfl

@[simp] lemma mapFault_id (e : Emission) : mapFault id e = e := by
  rcases e with ⟨t, _ | f⟩ <;> rfl

/-- The caller of a render sees a renamed fault as the renamed error. -/
@[simp] lemma result_mapFault (e : Emission) : (mapFault g e).result = e.result.mapError g := by
  rcases e with ⟨t, _ | f⟩ <;> rfl

end mapFault

/-! ## Cutting short at the depth fault

A render with fewer levels to spend writes the same as one with more, unless it runs out of
levels first.  `Cut m e e'` says this of two emissions: `e'` is `e`, or `e` stopped at the
depth fault naming the limit `m`.  Every combinator keeps the relation, so it passes from the
parts of a render to the whole. -/

/-- `e'` is `e`, unless `e` stopped at the depth fault naming `m`. -/
def Cut (m : Nat) (e e' : Emission) : Prop := e' = e ∨ e.fault = some (.tooDeep m)

section Cut

variable {m : Nat}

@[refl] lemma Cut.refl (e : Emission) : Cut m e e := .inl rfl

/-- Running out of levels is cut short by any render with more of them. -/
lemma Cut.tooDeep (e' : Emission) : Cut m (fail (.tooDeep m)) e' := .inr rfl

@[gcongr] lemma Cut.append {a a' c c' : Emission} (ha : Cut m a a') (hc : Cut m c c') :
    Cut m (a ++ c) (a' ++ c') := by
  rcases ha with ha | ha
  · rw [ha]
    rcases hfa : a.fault with _ | f
    · -- the first part went through: the second decides
      rcases hc with hc | hc
      · rw [hc]
      · exact .inr (by simp [append_of_ok hfa, hc])
    · exact .inl (by simp [append_of_fault hfa])
  · exact .inr (by simp [append_of_fault ha, ha])

@[gcongr] lemma Cut.operand (p t : Tier) {e e' : Emission} (h : Cut m e e') :
    Cut m (operand p t e) (operand p t e') := by
  unfold Emission.operand
  split
  · exact h
  · rfl

@[gcongr] lemma Cut.when (c : Bool) {e e' : Emission} (h : Cut m e e') :
    Cut m (when c e) (when c e') := by
  cases c
  · rfl
  · exact h

@[gcongr] lemma Cut.after (pre : String) {a a' : Option Emission} (h : Option.Rel (Cut m) a a') :
    Cut m (after pre a) (after pre a') := by
  cases h with
  | none => rfl
  | some h => exact Cut.append (.refl _) h

@[gcongr] lemma Cut.sepBy (sep : String) {es es' : List Emission}
    (h : List.Forall₂ (Cut m) es es') : Cut m (sepBy sep es) (sepBy sep es') := by
  induction h with
  | nil => rfl
  | cons hd htl ih =>
    cases htl with
    | nil => exact hd
    | cons =>
      rw [sepBy_cons_cons, sepBy_cons_cons]
      exact Cut.append (Cut.append hd (.refl _)) ih

@[gcongr] lemma Cut.prefixEach (pre : String) {es es' : List Emission}
    (h : List.Forall₂ (Cut m) es es') : Cut m (prefixEach pre es) (prefixEach pre es') := by
  induction h with
  | nil => rfl
  | cons hd _ ih => exact Cut.append (Cut.append (.refl _) hd) ih

@[gcongr] lemma Cut.concat {es es' : List Emission} (h : List.Forall₂ (Cut m) es es') :
    Cut m (concat es) (concat es') :=
  Cut.prefixEach "" h

@[gcongr] lemma Cut.ite (c : Prop) [Decidable c] {a a' e e' : Emission} (ha : Cut m a a')
    (he : Cut m e e') : Cut m (if c then a else e) (if c then a' else e') := by
  split
  · exact ha
  · exact he

@[refl] lemma Cut.forall₂_refl (l : List Emission) : List.Forall₂ (Cut m) l l :=
  List.forall₂_same.mpr fun e _ => .refl e

@[gcongr] lemma Cut.forall₂_cons {e e' : Emission} {l l' : List Emission} (h : Cut m e e')
    (hl : List.Forall₂ (Cut m) l l') : List.Forall₂ (Cut m) (e :: l) (e' :: l') :=
  .cons h hl

@[gcongr] lemma Cut.forall₂_append {l₁ l₁' l₂ l₂' : List Emission}
    (h₁ : List.Forall₂ (Cut m) l₁ l₁') (h₂ : List.Forall₂ (Cut m) l₂ l₂') :
    List.Forall₂ (Cut m) (l₁ ++ l₂) (l₁' ++ l₂') :=
  List.rel_append h₁ h₂

@[gcongr] lemma Cut.forall₂_ite (c : Prop) [Decidable c] {l₁ l₁' l₂ l₂' : List Emission}
    (h₁ : List.Forall₂ (Cut m) l₁ l₁') (h₂ : List.Forall₂ (Cut m) l₂ l₂') :
    List.Forall₂ (Cut m) (if c then l₁ else l₂) (if c then l₁' else l₂') := by
  split
  · exact h₁
  · exact h₂

/-- The items of a list rendered by two renderers that keep the relation on every item. -/
@[gcongr] lemma Cut.forall₂_map {α : Type} (l : List α) {f g : α → Emission}
    (h : ∀ a, Cut m (f a) (g a)) : List.Forall₂ (Cut m) (l.map f) (l.map g) := by
  induction l with
  | nil => exact .nil
  | cons a l ih => exact .cons (h a) ih

/-- An optional part rendered by two renderers that keep the relation on every value. -/
@[gcongr] lemma Cut.option_map {α : Type} (x : Option α) {f g : α → Emission}
    (h : ∀ a, Cut m (f a) (g a)) : Option.Rel (Cut m) (x.map f) (x.map g) := by
  cases x with
  | none => exact .none
  | some a => exact .some (h a)

/-- A part written under a map keeps the relation when the map does. -/
lemma Cut.rel_map {α β : Type} {R : α → β → Prop} {f : α → Emission} {g : β → Emission}
    (hfg : ∀ {x y}, R x y → Cut m (f x) (g y)) {a : Option α} {b : Option β}
    (h : Option.Rel R a b) : Option.Rel (Cut m) (a.map f) (b.map g) := by
  cases h with
  | none => exact .none
  | some h => exact .some (hfg h)

end Cut

end Emission

end SqlSyntax
