import SqlSyntax.Writer

/-!
# Separated lists

A list of nodes is written item by item, left to right, with the separator before every item
but the first.  When every item succeeds the writer gains the items' texts joined by the
separator: one separator fewer than items, none leading or trailing, and nothing at all for no
items.  When an item fails, the writer gains the texts of the items before it and the partial
text of the failing item, joined the same way, reports that item's fault, and nothing of the
items after it.

What an item writes does not depend on what the list wrote before it, so "the text an item
appends" is the text it appends when rendered alone into the same writer.

A list of items given by their steps is also the loop that writes it: the separator, then the
item, for every item but the first, which has no separator, stopping at the first step that
reports a fault (`Writer.perform_list`).

Main statement: `Writer.list_joins_until_fault`.
-/

namespace SqlSyntax

namespace Emission

/-- After an item that succeeds, a separated list continues with the separator and the rest. -/
theorem sepBy_cons_of_ok (sep : String) {e : Emission} (he : e.fault = none) {es : List Emission}
    (hes : es ≠ []) :
    sepBy sep (e :: es) = ⟨e.text ++ sep ++ (sepBy sep es).text, (sepBy sep es).fault⟩ := by
  obtain ⟨e', es', rfl⟩ := List.exists_cons_of_ne_nil hes
  rw [sepBy_cons_cons, append_of_ok he, append_of_ok rfl]
  rfl

/-- A separated list stops at its first failing item `x`: it writes the texts of the items before
`x` and the text of `x`, joined by the separator, and reports the fault of `x`. -/
theorem sepBy_append_fault (sep : String) {done : List Emission}
    (hdone : ∀ e ∈ done, e.fault = none) {x : Emission} {f : SqlError} (hx : x.fault = some f)
    (later : List Emission) :
    sepBy sep (done ++ x :: later) = ⟨sep.intercalate (done.map text ++ [x.text]), some f⟩ := by
  induction done with
  | nil =>
    -- the failing item comes first: nothing after it is written
    have hfirst : sepBy sep (x :: later) = x := by
      cases later with
      | nil => rfl
      | cons y later => rw [sepBy_cons_cons, append_of_fault hx, append_of_fault hx]
    cases x
    simp_all
  | cons d done ih =>
    have hd : d.fault = none := hdone d (by simp)
    have ih := ih fun e he => hdone e (by simp [he])
    rw [List.cons_append, sepBy_cons_of_ok sep hd (by simp), ih, List.map_cons, List.cons_append,
      String.intercalate_cons_of_ne_nil (by simp)]

/-- A separated list is its first item followed by each further item after the separator. -/
theorem sepBy_cons (sep : String) (e : Emission) (es : List Emission) :
    sepBy sep (e :: es) = e ++ prefixEach sep es := by
  induction es generalizing e with
  | nil => simp [sepBy, prefixEach]
  | cons e' es ih => simp only [sepBy_cons_cons, ih, prefixEach, append_assoc]

end Emission

namespace Writer

@[simp] theorem pushStr_empty (w : Writer) : w.pushStr "" = w := by
  cases w
  simp [pushStr]

theorem pushStr_pushStr (w : Writer) (s s' : String) :
    (w.pushStr s).pushStr s' = w.pushStr (s ++ s') := by
  simp [pushStr, String.append_assoc]

/-- Appending an emission that succeeds and then more is appending the two one after the
other. -/
theorem append_append_of_ok (w : Writer) {a : Emission} (ha : a.fault = none) (b : Emission) :
    w.append (a ++ b) = (w.pushStr a.text).append b := by
  rw [Emission.append_of_ok ha]
  simp [append, pushStr_pushStr]

/-- Appending an emission that fails and then more appends the failing emission alone. -/
theorem append_append_of_fault (w : Writer) {a : Emission} {f : SqlError} (ha : a.fault = some f)
    (b : Emission) : w.append (a ++ b) = (w.pushStr a.text, some f) := by
  rw [Emission.append_of_fault ha]
  simp [append, ha]

/-- Rendering a node alone appends `s` and reports `o` exactly when the node's emission is the
text `s` with the fault `o`. -/
theorem node_eq_pushStr_iff (w : Writer) (r : RenderOptions → Nat → Emission) (s : String)
    (o : Option SqlError) :
    w.node r = (w.pushStr s, o) ↔
      (r w.options w.budget).text = s ∧ (r w.options w.budget).fault = o := by
  cases w
  simp [node, append, pushStr, String.append_right_inj]

/-- A list of nodes, each of which appends its text `t r` and succeeds when rendered alone, appends
those texts joined by the separator and succeeds; followed by a node `x` that fails after writing
`p`, it appends the same texts and `p`, joined by the separator, and reports the fault of `x`,
whatever nodes come after `x`. -/
theorem list_joins_until_fault (w : Writer) (sep : String)
    (t : (RenderOptions → Nat → Emission) → String) (done : List (RenderOptions → Nat → Emission))
    (hdone : ∀ r ∈ done, w.node r = (w.pushStr (t r), none)) :
    w.list done sep = (w.pushStr (sep.intercalate (done.map t)), none) ∧
      ∀ (x : RenderOptions → Nat → Emission) (p : String) (f : SqlError)
        (later : List (RenderOptions → Nat → Emission)),
        w.node x = (w.pushStr p, some f) →
          w.list (done ++ x :: later) sep =
            (w.pushStr (sep.intercalate (done.map t ++ [p])), some f) := by
  have hitems := fun r hr => (node_eq_pushStr_iff w r _ _).1 (hdone r hr)
  have hok : ∀ e ∈ done.map (fun r => r w.options w.budget), e.fault = none := by
    simp only [List.mem_map]
    rintro e ⟨r, hr, rfl⟩
    exact (hitems r hr).2
  have htexts : (done.map fun r => r w.options w.budget).map Emission.text = done.map t := by
    simp only [List.map_map]
    exact List.map_congr_left fun r hr => (hitems r hr).1
  refine ⟨?_, fun x p f later hx => ?_⟩
  · obtain ⟨ht, hf⟩ := Emission.text_sepBy sep _ hok
    rw [list, append, ht, hf, htexts]
  · obtain ⟨hxt, hxf⟩ := (node_eq_pushStr_iff w x p _).1 hx
    rw [list, List.map_append, List.map_cons, Emission.sepBy_append_fault sep hok hxf, append,
      htexts, hxt]

/-! ## The loop that writes a list -/

/-- The steps of the loop that writes a list: every item rendered as a node, every item but the
first after the separator. -/
def listSteps (sep : String) : List (List Step) → List Step
  | [] => []
  | p :: ps => .node p :: ps.flatMap fun p => [.pushStr sep, .node p]

/-- Items that each follow an item before them are written the separator first, then the item,
stopping at the first step that reports a fault. -/
theorem performItems_leading (w : Writer) (sep : String) (items : List (List Step)) :
    w.performItems sep true items = w.performAll (items.flatMap fun p => [.pushStr sep, .node p]) := by
  induction items generalizing w with
  | nil => simp [performItems, performAll]
  | cons p ps ih =>
    simp only [performItems, if_true, List.flatMap_cons, List.cons_append, performAll, perform,
      List.nil_append]
    split <;> simp_all

/-- A list is the loop that writes it: each item rendered in turn, the separator before every
item but the first, and nothing after the first item that fails. -/
theorem perform_list (w : Writer) (items : List (List Step)) (sep : String) :
    w.perform (.list items sep) = w.performAll (listSteps sep items) := by
  cases items with
  | nil => simp [perform, performItems, listSteps, performAll]
  | cons p ps =>
    simp only [perform, performItems, listSteps, performAll]
    split <;> simp_all [performItems_leading]

/-- Two words joined by a comma; followed by an item that fails after writing `c`, the two words
and `c`, and nothing of the word after it. -/
theorem list_words_until_fault :
    (init {}).list [fun _ _ => .ofString "a", fun _ _ => .ofString "b"] ", " =
        ((init {}).pushStr "a, b", none) ∧
      (init {}).list ([fun _ _ => .ofString "a", fun _ _ => .ofString "b"] ++
          (fun _ _ => ⟨"c", some (.tooDeep 1)⟩) :: [fun _ _ => .ofString "d"]) ", " =
        ((init {}).pushStr "a, b, c", some (.tooDeep 1)) := by
  have h := list_joins_until_fault (init {}) ", " (fun r => (r {} 256).text)
    [fun _ _ => .ofString "a", fun _ _ => .ofString "b"] (by simp; exact ⟨rfl, rfl⟩)
  exact ⟨h.1, h.2 _ "c" _ _ rfl⟩

end Writer

end SqlSyntax
