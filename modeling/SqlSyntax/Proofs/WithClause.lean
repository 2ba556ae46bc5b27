import SqlSyntax.Render.Node
import SqlSyntax.Mutation
import SqlSyntax.Proofs.Emission

/-!
# Setting the `WITH` clause

`WithOwner.setWithTables` gives a `SELECT`, a compound query, an `INSERT` or an `UPDATE` another
`WITH` clause, or none.  On each of them the setter replaces that one field and nothing else, so
it obeys the laws of a field update (`WithOwner.Lawful`): read back it gives what was set,
setting what is there changes nothing, and of two settings the last wins.  On a query it sets
the clause of the `SELECT` or compound it wraps.

Each of these statements writes its clause before anything else, at the same depth as the
statement, and a separator after it: one newline, or two ahead of `UPDATE`.  So a statement with
a clause renders as the clause on its own, the separator, and the statement without the clause,
the clause's fault coming first; a clause that names no query writes nothing at all, separator
included (`WithOwner.PrefixLaw`).

Removing the clause does not always take the word `WITH` off the front of a render.  The first
`SELECT` of a compound query carries a clause of its own, which the compound's setter does not
touch and which the render writes first: a query rendered after its clause is removed starts with
`WITH ` exactly when it is a compound whose first `SELECT` names a query.  An `INSERT` or `UPDATE`
never does.

Main statements: `WithOwner.setWithTables_spec` and `render_setWithTables_none_startsWith`.
-/

namespace SqlSyntax

open Emission

/-! ## What a caller sees of a concatenation -/

namespace Emission

/-- A caller sees the two texts joined, or the first fault. -/
lemma result_append (a b : Emission) :
    (a ++ b).result = a.result >>= fun x => b.result.map (x ++ ·) := by
  rcases a with ⟨ta, _ | fa⟩ <;> rcases b with ⟨tb, _ | fb⟩ <;> rfl

@[simp] lemma result_ofString (s : String) : (ofString s).result = .ok s := rfl

/-- Whatever follows, the text of an emission starts with the text of its first part. -/
lemma prefix_text_append (a b : Emission) : a.text.toList <+: (a ++ b).text.toList := by
  rcases a with ⟨ta, _ | fa⟩ <;> simp [append_def, append]

end Emission

namespace Clause

/-- A `WITH` clause that names a query, written ahead of a statement, gives the clause, the
separator and the statement, with the clause's fault first. -/
lemma result_withPrefix_append (sep : String) (e : Emission) (es : List Emission)
    (body : Emission) :
    (withPrefix sep (e :: es) ++ body).result =
      (withList (e :: es)).result >>= fun w => body.result.map fun r => w ++ sep ++ r := by
  rw [withPrefix, result_append, result_append]
  cases (withList (e :: es)).result <;> cases body.result <;> rfl

lemma withPrefix_nil (sep : String) : withPrefix sep [] = Emission.empty := rfl

end Clause

/-! ## Each statement writes its clause first

Every renderer with a `WITH` clause starts with `Clause.withPrefix` of the clause and goes on
without reading it again, so it is the prefix followed by the render of the statement without
its clause. -/

lemma Select.emit_split (o : RenderOptions) (b : Nat) (s : Select) :
    s.emit o b = Clause.withPrefix "\n" (CommonTable.emitOptEach o b s.withTables) ++
      ({ s with withTables := none } : Select).emit o b := by
  cases s
  simp only [Select.emit, CommonTable.emitOptEach, Clause.withPrefix_nil, empty_append,
    append_assoc]

lemma Compound.emit_split (o : RenderOptions) (b : Nat) (c : Compound) :
    c.emit o b = Clause.withPrefix "\n" (CommonTable.emitOptEach o b c.withTables) ++
      ({ c with withTables := none } : Compound).emit o b := by
  cases c
  simp only [Compound.emit, CommonTable.emitOptEach, Clause.withPrefix_nil, empty_append,
    append_assoc]

lemma Insert.emit_split (o : RenderOptions) (b : Nat) (s : Insert) :
    s.emit o b = Clause.withPrefix "\n" (CommonTable.emitOptEach o b s.withTables) ++
      ({ s with withTables := none } : Insert).emit o b := by
  simp only [Insert.emit, CommonTable.emitOptEach, Clause.withPrefix_nil, empty_append,
    append_assoc]

lemma Update.emit_split (o : RenderOptions) (b : Nat) (s : Update) :
    s.emit o b = Clause.withPrefix "\n\n" (CommonTable.emitOptEach o b s.withTables) ++
      ({ s with withTables := none } : Update).emit o b := by
  simp only [Update.emit, CommonTable.emitOptEach, Clause.withPrefix_nil, empty_append,
    append_assoc]

/-! ## The laws of the setter -/

namespace WithOwner

variable {α : Type} [WithOwner α]

/-- The laws of a setter that replaces one field: read back it gives what was set, setting what
is there changes nothing, and of two settings the last wins. -/
structure Lawful (α : Type) [WithOwner α] : Prop where
  withTables_set : ∀ (s : α) w, withTables (setWithTables s w) = w
  set_withTables : ∀ s : α, setWithTables s (withTables s) = s
  set_set : ∀ (s : α) w w', setWithTables (setWithTables s w) w' = setWithTables s w'

-- Setting the clause that is there rebuilds the record field by field; `rfl` sees that nothing
-- changed only once the record is split into its fields.
lemma lawful_select : Lawful Select :=
  ⟨fun _ _ => rfl, fun s => by cases s; rfl, fun _ _ _ => rfl⟩

lemma lawful_compound : Lawful Compound :=
  ⟨fun _ _ => rfl, fun c => by cases c; rfl, fun _ _ _ => rfl⟩

lemma lawful_insert : Lawful Insert :=
  ⟨fun _ _ => rfl, fun s => by cases s; rfl, fun _ _ _ => rfl⟩

lemma lawful_update : Lawful Update :=
  ⟨fun _ _ => rfl, fun s => by cases s; rfl, fun _ _ _ => rfl⟩

/-- A query passes its clause through to the statement it wraps, so it inherits the laws. -/
lemma lawful_query : Lawful Query where
  withTables_set q _ := by cases q <;> rfl
  set_withTables q := by
    cases q with
    | single s => exact congrArg Query.single (lawful_select.set_withTables s)
    | compound c => exact congrArg Query.compound (lawful_compound.set_withTables c)
  set_set q _ _ := by cases q <;> rfl

/-- How a statement of kind `node` renders with the `WITH` clause `ts`: as without a clause when
`ts` names no query, and otherwise as the clause on its own, then `sep`, then the statement
without its clause; the clause's fault comes first. -/
def PrefixLaw (node : α → Node) (sep : String) : Prop :=
  ∀ (o : RenderOptions) (s : α) (ts : List CommonTable),
    (node (setWithTables s (some ts))).render o =
      if ts = [] then (node (setWithTables s none)).render o
      else (Node.withClause ts).render o >>= fun w =>
        ((node (setWithTables s none)).render o).map fun r => w ++ sep ++ r

/-- A renderer that writes the clause first and `sep` after it, and then the statement without
the clause, obeys the prefix law. -/
lemma prefixLaw_of_split {node : α → Node} {sep : String}
    (h : ∀ o b (s : α) w, (node (setWithTables s w)).emit o b =
      Clause.withPrefix sep (CommonTable.emitOptEach o b w) ++
        (node (setWithTables s none)).emit o b) :
    PrefixLaw node sep := by
  intro o s ts
  rw [Node.render, h, Node.render]
  cases ts with
  | nil => simp [CommonTable.emitOptEach, CommonTable.emitEach, Clause.withPrefix_nil]
  | cons t ts =>
    simp only [CommonTable.emitOptEach, CommonTable.emitEach, reduceCtorEq, if_false,
      Clause.result_withPrefix_append]
    rfl

lemma prefixLaw_select : PrefixLaw Node.select "\n" :=
  prefixLaw_of_split fun o b _ _ => Select.emit_split o b _

lemma prefixLaw_compound : PrefixLaw Node.compound "\n" :=
  prefixLaw_of_split fun o b _ _ => Compound.emit_split o b _

lemma prefixLaw_insert : PrefixLaw Node.insert "\n" :=
  prefixLaw_of_split fun o b _ _ => Insert.emit_split o b _

lemma prefixLaw_update : PrefixLaw Node.update "\n\n" :=
  prefixLaw_of_split fun o b _ _ => Update.emit_split o b _

/-- Setting the `WITH` clause of a `SELECT`, a compound query, an `INSERT` or an `UPDATE`
replaces that field and nothing else, and obeys the laws of a field update.  Rendered, the
statement is the clause on its own, a separator (one newline, two ahead of `UPDATE`) and the
statement without its clause, the clause's fault first; a clause that names no query writes
nothing.  On a query the setter and the getter act on the statement it wraps. -/
theorem setWithTables_spec :
    (∀ (s : Select) w, setWithTables s w = { s with withTables := w }) ∧
    (∀ (c : Compound) w, setWithTables c w = { c with withTables := w }) ∧
    (∀ (s : Insert) w, setWithTables s w = { s with withTables := w }) ∧
    (∀ (s : Update) w, setWithTables s w = { s with withTables := w }) ∧
    Lawful Select ∧ Lawful Compound ∧ Lawful Insert ∧ Lawful Update ∧
    PrefixLaw Node.select "\n" ∧ PrefixLaw Node.compound "\n" ∧ PrefixLaw Node.insert "\n" ∧
    PrefixLaw Node.update "\n\n" ∧
    (∀ (s : Select) w, setWithTables (Query.single s) w = .single (setWithTables s w) ∧
      withTables (Query.single s) = withTables s) ∧
    (∀ (c : Compound) w, setWithTables (Query.compound c) w = .compound (setWithTables c w) ∧
      withTables (Query.compound c) = withTables c) ∧
    Lawful Query :=
  ⟨fun _ _ => rfl, fun _ _ => rfl, fun _ _ => rfl, fun _ _ => rfl,
    lawful_select, lawful_compound, lawful_insert, lawful_update,
    prefixLaw_select, prefixLaw_compound, prefixLaw_insert, prefixLaw_update,
    fun _ _ => ⟨rfl, rfl⟩, fun _ _ => ⟨rfl, rfl⟩, lawful_query⟩

end WithOwner

/-! ## What a render starts with -/

/-- A text that starts with `pre` does not start with `WITH ` when neither of `pre` and `WITH `
starts the other. -/
lemma startsWith_with_eq_false {pre text : String} (hpre : pre.toList <+: text.toList)
    (h₁ : ¬ "WITH ".toList <+: pre.toList) (h₂ : ¬ pre.toList <+: "WITH ".toList) :
    text.startsWith "WITH " = false := by
  rw [String.startsWith_string_eq_false_iff]
  intro h
  rcases List.prefix_or_prefix_of_prefix h hpre with h' | h'
  · exact h₁ h'
  · exact h₂ h'

/-- A text that starts with `SELECT ` does not start with `WITH `. -/
lemma startsWith_with_eq_false_of_select {text : String} (h : "SELECT ".toList <+: text.toList) :
    text.startsWith "WITH " = false :=
  startsWith_with_eq_false h (by decide) (by decide)

/-- A `SELECT` whose clause names no query starts with `SELECT `. -/
lemma Select.prefix_emit_of_emitOptEach_eq_nil (o : RenderOptions) (b : Nat) (s : Select)
    (h : CommonTable.emitOptEach o b s.withTables = []) :
    "SELECT ".toList <+: (s.emit o b).text.toList := by
  rw [Select.emit_split, h, Clause.withPrefix_nil, empty_append]
  rcases s with ⟨_, ⟨distinct, _⟩⟩
  simp only [Select.emit, SelectClause.emit, CommonTable.emitOptEach, Clause.withPrefix_nil,
    empty_append, append_assoc]
  refine List.IsPrefix.trans ?_ (prefix_text_append _ _)
  cases distinct <;> simp

/-- A `SELECT` whose clause names a query starts with `WITH `. -/
lemma Select.prefix_emit_of_withTables_eq_cons (o : RenderOptions) (b : Nat) (s : Select)
    {t : CommonTable} {ts : List CommonTable} (h : s.withTables = some (t :: ts)) :
    "WITH ".toList <+: (s.emit o b).text.toList := by
  rw [Select.emit_split, h]
  simp only [CommonTable.emitOptEach, CommonTable.emitEach, Clause.withPrefix, Clause.withList,
    append_assoc]
  exact prefix_text_append (ofString "WITH ") _

/-- A compound query without its own clause starts as its first `SELECT` does. -/
lemma Compound.prefix_emit_none {o : RenderOptions} {b : Nat} {c : Compound} {pre : String}
    (h : pre.toList <+: (c.head.emit o b).text.toList) :
    pre.toList <+: (({ c with withTables := none } : Compound).emit o b).text.toList := by
  rcases c with ⟨_, head, tail⟩
  simp only [Compound.emit, CommonTable.emitOptEach, Clause.withPrefix_nil, empty_append]
  exact h.trans (prefix_text_append _ _)

/-- A clause writes no named query unless it names one. -/
lemma CommonTable.emitOptEach_eq_nil {o : RenderOptions} {b : Nat} {w : Option (List CommonTable)}
    (h : ¬ ∃ t ts, w = some (t :: ts)) : CommonTable.emitOptEach o b w = [] := by
  rcases w with _ | _ | ⟨t, ts⟩
  · rfl
  · rfl
  · exact absurd ⟨t, ts, rfl⟩ h

/-- A query rendered after its clause is removed starts with `WITH ` exactly when it is a
compound whose first `SELECT` has a clause naming a query, whether or not the render then
fails.  The query spends a level first, so the budget is a successor. -/
lemma Query.startsWith_emit_setWithTables_none (o : RenderOptions) (b : Nat) (q : Query) :
    ((WithOwner.setWithTables q none).emit o (b + 1)).text.startsWith "WITH " ↔
      ∃ c, q = .compound c ∧ ∃ t ts, c.head.withTables = some (t :: ts) := by
  cases q with
  | single s =>
    simp only [WithOwner.setWithTables, Query.emit, reduceCtorEq, false_and, exists_false,
      iff_false, Bool.not_eq_true]
    exact startsWith_with_eq_false_of_select (Select.prefix_emit_of_emitOptEach_eq_nil o b _ rfl)
  | compound c =>
    simp only [WithOwner.setWithTables, Query.emit, Query.compound.injEq, exists_eq_left']
    -- the compound writes its first `SELECT` first, and that starts with `WITH ` exactly when
    -- its own clause names a query
    by_cases hw : ∃ t ts, c.head.withTables = some (t :: ts)
    · obtain ⟨t, ts, h⟩ := hw
      refine iff_of_true ?_ ⟨t, ts, h⟩
      rw [String.startsWith_string_iff]
      exact Compound.prefix_emit_none (Select.prefix_emit_of_withTables_eq_cons o b _ h)
    · simp only [hw, iff_false, Bool.not_eq_true]
      exact startsWith_with_eq_false_of_select (Compound.prefix_emit_none
        (Select.prefix_emit_of_emitOptEach_eq_nil o b _ (CommonTable.emitOptEach_eq_nil hw)))

/-- An `INSERT` without its clause starts with the spelling of its mode. -/
lemma Insert.prefix_emit_none (o : RenderOptions) (b : Nat) (s : Insert) :
    (Keyword.spelling s.mode).toList <+:
      (({ s with withTables := none } : Insert).emit o b).text.toList := by
  simp only [Insert.emit, CommonTable.emitOptEach, Clause.withPrefix_nil, empty_append,
    append_assoc]
  -- every dialect has every insert mode, so the keyword is its spelling
  exact prefix_text_append (ofString (Keyword.spelling s.mode)) _

/-- An `UPDATE` without its clause starts with `UPDATE `. -/
lemma Update.prefix_emit_none (o : RenderOptions) (b : Nat) (s : Update) :
    "UPDATE ".toList <+: (({ s with withTables := none } : Update).emit o b).text.toList := by
  simp only [Update.emit, CommonTable.emitOptEach, Clause.withPrefix_nil, empty_append,
    append_assoc]
  exact prefix_text_append (ofString "UPDATE ") _

/-- Removing the `WITH` clause of a query, an `INSERT` or an `UPDATE`, and rendering it: an
`INSERT` or an `UPDATE` then never starts with `WITH `, but a query still does exactly when it
is a compound whose first `SELECT` has a clause of its own that names a query. -/
theorem render_setWithTables_none_startsWith (o : RenderOptions) :
    (∀ (q : Query) (text : String),
      (Node.query (WithOwner.setWithTables q none)).render o = .ok text →
        (text.startsWith "WITH " ↔
          ∃ c, q = .compound c ∧ ∃ t ts, c.head.withTables = some (t :: ts))) ∧
    (∀ (s : Insert) (text : String),
      (Node.insert (WithOwner.setWithTables s none)).render o = .ok text →
        text.startsWith "WITH " = false) ∧
    (∀ (s : Update) (text : String),
      (Node.update (WithOwner.setWithTables s none)).render o = .ok text →
        text.startsWith "WITH " = false) := by
  refine ⟨fun q text h => ?_, fun s text h => ?_, fun s text h => ?_⟩
  · rw [Node.render, result_eq_ok] at h
    obtain ⟨hf, rfl⟩ := h
    -- with no level left the query fails at once, so this render had a level to spend
    obtain ⟨b, hb⟩ : ∃ b, o.maxDepth = b + 1 := by
      cases hm : o.maxDepth with
      | zero => simp [Node.emit, hm, Query.emit, fail] at hf
      | succ b => exact ⟨b, rfl⟩
    rw [Node.emit, hb]
    exact Query.startsWith_emit_setWithTables_none o b q
  · rw [Node.render, result_eq_ok] at h
    obtain ⟨-, rfl⟩ := h
    exact startsWith_with_eq_false (Insert.prefix_emit_none o _ s)
      (by cases s.mode <;> decide) (by cases s.mode <;> decide)
  · rw [Node.render, result_eq_ok] at h
    obtain ⟨-, rfl⟩ := h
    exact startsWith_with_eq_false (Update.prefix_emit_none o _ s) (by decide) (by decide)

/-- A compound query whose first `SELECT` has a `WITH` clause still renders with `WITH ` in
front once its own clause is removed. -/
theorem render_compound_keeps_head_with :
    (Node.query (WithOwner.setWithTables
        (Query.compound
          { head :=
              { withTables :=
                  some [⟨"w", .single (Select.ofClause ⟨false, [⟨Expr.col "a", none⟩]⟩)⟩]
                selectClause := ⟨false, [⟨Expr.col "b", none⟩]⟩ }
            tail := [⟨.union, Select.ofClause ⟨false, [⟨Expr.col "c", none⟩]⟩⟩] })
        none)).render {} = .ok "WITH w AS (SELECT `a`)\nSELECT `b`\nUNION\nSELECT `c`" ∧
      "WITH w AS (SELECT `a`)\nSELECT `b`\nUNION\nSELECT `c`".startsWith "WITH " = true := by
  refine ⟨?render, ((render_setWithTables_none_startsWith {}).1 _ _ ?render).2 ⟨_, rfl, _, _, rfl⟩⟩
  decide

/-- Removing a query's `WITH` clause does not always keep `WITH ` off the front of its render. -/
theorem setWithTables_none_leaves_leading_with :
    ¬ ∀ (q : Query) (o : RenderOptions) (text : String),
      (Node.query (WithOwner.setWithTables q none)).render o = .ok text →
        text.startsWith "WITH " = false := by
  intro h
  have := h (Query.compound
      { head :=
          { withTables := some [⟨"w", .single (Select.ofClause ⟨false, [⟨Expr.col "a", none⟩]⟩)⟩]
            selectClause := ⟨false, [⟨Expr.col "b", none⟩]⟩ }
        tail := [⟨.union, Select.ofClause ⟨false, [⟨Expr.col "c", none⟩]⟩⟩] })
    {} "WITH w AS (SELECT `a`)\nSELECT `b`\nUNION\nSELECT `c`" (by decide)
  exact absurd this (by rw [String.startsWith_string_eq_false_iff, not_not]; decide)

end SqlSyntax
