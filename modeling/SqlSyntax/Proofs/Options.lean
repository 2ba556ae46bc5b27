import SqlSyntax.Proofs.Budget
import SqlSyntax.Proofs.Agreement.Render

/-!
# What the render options change

A free render reads its three options in three places: the depth limit is the budget it starts
with and the limit its depth fault names, the indent lays out the body of a table definition,
and the dialect chooses layouts, keywords and spellings.

* Raising the depth limit keeps a render, unless the render under the lower limit stopped at
  its depth fault (`Node.render_withMaxDepth_of_le`): with more levels a render takes the same
  path (`Node.emit_cut`), and only the limit its depth fault names changes.  The indent changes
  the render of a table definition alone (`Node.render_withIndent`).  Together:
  `Node.render_options_mono`.
* The default dialect, SQL Server and DB2 share every trait that lays out clauses and
  statements.  SQL Server also spells every word as the default dialect does, so it renders
  every tree alike, up to the dialect a fault names; DB2 lacks `%` and writes the date and time
  pseudo-columns with a blank, and renders alike every tree without them
  (`Node.render_dialect_alike`).
-/

namespace SqlSyntax

open Emission

/-! ## The depth limit and the indent -/

/-- A render stops at the depth fault only by naming the limit of its options, so renaming the
limit of that fault leaves every other emission as it is. -/
lemma Node.mapFault_relimit_of_ne (o : RenderOptions) (b m : Nat) (n : Node)
    (hne : (n.emit o b).fault ≠ some (.tooDeep o.maxDepth)) :
    (n.emit o b).mapFault (SqlError.relimit m) = n.emit o b := by
  have hr := Node.relimit_fault o b n
  generalize n.emit o b = e at hr hne ⊢
  rcases e with ⟨t, _ | f⟩
  · rfl
  · cases f with
    | tooDeep k =>
      -- a depth fault names the limit of the options
      have hk : o.maxDepth = k := by simpa using hr
      exact absurd (by rw [hk]) hne
    | _ => rfl

/-- Raising the depth limit keeps a render, unless it stopped at the depth fault of the lower
limit. -/
theorem Node.render_withMaxDepth_of_le (o : RenderOptions) (n : Node) {m : Nat}
    (hm : o.maxDepth ≤ m) :
    n.render (o.withMaxDepth m) = n.render o ∨ n.render o = .error (.tooDeep o.maxDepth) := by
  by_cases hdeep : (n.emit o o.maxDepth).fault = some (.tooDeep o.maxDepth)
  · right
    simp [Node.render, Emission.result, hdeep]
  · left
    -- with more levels the render takes the same path, and its faults are no depth fault
    have hcut : n.emit o m = n.emit o o.maxDepth := (Node.emit_cut o hm n).resolve_right hdeep
    calc n.render (o.withMaxDepth m)
        = ((n.emit o m).mapFault (SqlError.relimit m)).result := by
          rw [Node.render, RenderOptions.maxDepth_withMaxDepth, Node.emit_withMaxDepth]
      _ = (n.emit o o.maxDepth).result := by rw [hcut, Node.mapFault_relimit_of_ne o _ m n hdeep]
      _ = n.render o := rfl

/-- Options that differ in the indent alone agree, no fault renamed. -/
lemma RenderOptions.agree_withIndent (o : RenderOptions) (i : Nat) : o.Agree id (o.withIndent i) :=
  ⟨rfl, rfl, rfl, rfl, rfl, rfl, rfl, rfl, fun _ _ => rfl, fun _ => rfl, fun _ => rfl⟩

/-- The indent changes the render of a table definition alone. -/
theorem Node.render_withIndent (o : RenderOptions) (n : Node) (i : Nat)
    (hi : n.isCreateTable = false ∨ o.indent = i) : n.render (o.withIndent i) = n.render o := by
  have hw : ∀ w ∈ n.words, w.SpelledAlike id o (o.withIndent i) := fun w _ => by
    simp [DialectWord.SpelledAlike, RenderOptions.withIndent]
  have hind : n.isCreateTable = true → (o.withIndent i).indent = o.indent := fun h => by
    rcases hi with hi | hi
    · simp [hi] at h
    · exact hi.symm
  rw [Node.render_agree (o.agree_withIndent i) n hw hind rfl]
  cases n.render o <;> rfl

/-- The render options act monotonically: under a larger depth limit and any indent, a render
keeps its text or its fault, unless it stopped at the depth fault of the smaller limit; the
indent may change the text of a table definition only. -/
theorem Node.render_options_mono (n : Node) (d : Dialect) (i i' m m' : Nat) (hm : m ≤ m')
    (hi : n.isCreateTable = false ∨ i = i') :
    n.render { dialect := d, indent := i, maxDepth := m } =
        n.render { dialect := d, indent := i', maxDepth := m' } ∨
      n.render { dialect := d, indent := i, maxDepth := m } = .error (.tooDeep m) := by
  -- change the indent under the smaller limit first, then raise the limit
  have hindent : n.render { dialect := d, indent := i', maxDepth := m } =
      n.render { dialect := d, indent := i, maxDepth := m } :=
    Node.render_withIndent { dialect := d, indent := i, maxDepth := m } n i' hi
  rcases Node.render_withMaxDepth_of_le { dialect := d, indent := i', maxDepth := m } n hm with
    hraise | hdeep
  · exact .inl (hindent.symm.trans hraise.symm)
  · exact .inr (hindent.symm.trans hdeep)

/-- A difference of two columns rendered under the depth limit 1 and again under the limit 2
with a wider indent. -/
theorem render_difference_raise_limit :
    (Node.expression (.compute (.column { column := "a" }) .minus (.column { column := "b" }))).render
        { dialect := .default, indent := 2, maxDepth := 1 } =
      (Node.expression (.compute (.column { column := "a" }) .minus (.column { column := "b" }))).render
        { dialect := .default, indent := 4, maxDepth := 2 } ∨
    (Node.expression (.compute (.column { column := "a" }) .minus (.column { column := "b" }))).render
        { dialect := .default, indent := 2, maxDepth := 1 } = .error (.tooDeep 1) :=
  Node.render_options_mono _ .default 2 4 1 2 (by decide) (.inl rfl)

-- The second disjunct is the one that holds: the operands need a second level.
example :
    (Node.expression (.compute (.column { column := "a" }) .minus (.column { column := "b" }))).render
        { maxDepth := 1 } = .error (.tooDeep 1) ∧
      (Node.expression (.compute (.column { column := "a" }) .minus (.column { column := "b" }))).render
        { indent := 4, maxDepth := 2 } = .ok "`a` - `b`" := by decide

/-! ## The dialects that write like the default one -/

/-- DB2 spells a column as the default dialect does unless it is one of the date and time
pseudo-columns: the one other pseudo-column, `*`, has no underscore to replace. -/
lemma ColumnName.emit_db2 (c : ColumnName)
    (h : c.column ∉ ["CURRENT_DATE", "CURRENT_TIME", "CURRENT_TIMESTAMP"]) :
    c.emit .db2 = c.emit .default := by
  by_cases hp : c.isPseudo = true
  · have hstar : c.column = "*" := by
      simp only [ColumnName.isPseudo, ColumnName.pseudoColumns, List.contains_iff_mem,
        List.mem_cons, List.not_mem_nil, or_false] at hp h
      tauto
    have hspell : ("*".map fun ch => if ch = '_' then ' ' else ch) = "*" := by
      rw [← String.toList_inj, String.toList_map]
      decide
    simp [ColumnName.emit, hp, ColumnName.pseudoSpelling, hstar, hspell, Dialect.traits,
      Dialect.Traits.plain]
  · simp [ColumnName.emit, hp]

/-- Options of the default dialect agree with the same options in SQL Server or in DB2, the
dialect a fault names renamed: the three dialects lay out every clause and statement alike. -/
lemma RenderOptions.agree_redialect {o : RenderOptions} (ho : o.dialect = .default) {d : Dialect}
    (hd : d = .sqlServer ∨ d = .db2) : o.Agree (SqlError.redialect d) { o with dialect := d } := by
  obtain ⟨dialect, indent, maxDepth⟩ := o
  subst ho
  rcases hd with rfl | rfl <;>
    exact ⟨rfl, rfl, rfl, rfl, rfl, rfl, rfl, rfl, fun _ _ => rfl, fun _ => rfl, fun _ => rfl⟩

namespace DialectWord

variable {o : RenderOptions}

/-- SQL Server spells every word as the default dialect does. -/
lemma spelledAlike_sqlServer (ho : o.dialect = .default) (w : DialectWord) :
    w.SpelledAlike (SqlError.redialect .sqlServer) o { o with dialect := .sqlServer } := by
  cases w with
  | operator op =>
    refine (o.agree_redialect ho (.inl rfl)).keyword op ?_
    rw [ho]
    rfl
  | column c =>
    refine (spelledAlike_column c).mpr ?_
    rw [ho]
    rfl

/-- DB2 spells a word as the default dialect does unless it is `%` or a date or time
pseudo-column. -/
lemma spelledAlike_db2 (ho : o.dialect = .default) (w : DialectWord) (hmod : w ≠ .operator .mod)
    (hcur : ∀ c, w = .column c → c.column ∉ ["CURRENT_DATE", "CURRENT_TIME", "CURRENT_TIMESTAMP"]) :
    w.SpelledAlike (SqlError.redialect .db2) o { o with dialect := .db2 } := by
  cases w with
  | operator op =>
    refine (o.agree_redialect ho (.inr rfl)).keyword op ?_
    rw [ho]
    cases op <;> first | rfl | exact absurd rfl hmod
  | column c =>
    refine (spelledAlike_column c).mpr ?_
    rw [ho]
    exact ColumnName.emit_db2 c (hcur c rfl)

end DialectWord

/-- The default dialect, SQL Server and DB2 render alike: SQL Server renders every node as the
default dialect does, with the dialect an error names replaced; DB2 does so for every node
without the remainder operator `%` and without the date and time pseudo-columns. -/
theorem Node.render_dialect_alike (n : Node) (o : RenderOptions) (ho : o.dialect = .default) :
    n.render { o with dialect := .sqlServer } =
        (n.render o).mapError (SqlError.redialect .sqlServer) ∧
      (DialectWord.operator .mod ∉ n.words →
        (∀ c, DialectWord.column c ∈ n.words →
          c.column ∉ ["CURRENT_DATE", "CURRENT_TIME", "CURRENT_TIMESTAMP"]) →
        n.render { o with dialect := .db2 } = (n.render o).mapError (SqlError.redialect .db2)) := by
  -- a change of dialect keeps the indent and the depth limit
  have hi : ∀ d, n.isCreateTable = true → ({ o with dialect := d } : RenderOptions).indent = o.indent :=
    fun _ _ => rfl
  refine ⟨?_, fun hmod hcur => ?_⟩
  · exact Node.render_agree (o.agree_redialect ho (.inl rfl)) n
      (fun w _ => DialectWord.spelledAlike_sqlServer ho w) (hi _) rfl
  · refine Node.render_agree (o.agree_redialect ho (.inr rfl)) n (fun w hw => ?_) (hi _) rfl
    exact DialectWord.spelledAlike_db2 ho w (fun h => hmod (h ▸ hw)) (fun c h => hcur c (h ▸ hw))

/-- A difference of two columns renders alike in the default dialect, SQL Server and DB2. -/
theorem render_difference_dialects :
    (Node.expression (.compute (.column { column := "a" }) .minus (.column { column := "b" }))).render
        { dialect := .sqlServer } =
      ((Node.expression (.compute (.column { column := "a" }) .minus
        (.column { column := "b" }))).render {}).mapError (SqlError.redialect .sqlServer) ∧
    (Node.expression (.compute (.column { column := "a" }) .minus (.column { column := "b" }))).render
        { dialect := .db2 } =
      ((Node.expression (.compute (.column { column := "a" }) .minus
        (.column { column := "b" }))).render {}).mapError (SqlError.redialect .db2) := by
  have h := Node.render_dialect_alike
    (.expression (.compute (.column { column := "a" }) .minus (.column { column := "b" }))) {} rfl
  refine ⟨h.1, h.2 (by decide) fun c hc => ?_⟩
  simp [Node.words, Expr.words] at hc
  rcases hc with rfl | rfl <;> decide

-- DB2 refuses the remainder operator that the default dialect writes.
example :
    (Node.expression (.compute (.column { column := "a" }) .mod (.column { column := "b" }))).render {} =
        .ok "`a` % `b`" ∧
      (Node.expression (.compute (.column { column := "a" }) .mod (.column { column := "b" }))).render
        { dialect := .db2 } = .error (.unsupportedFeature "%" .db2) := by decide

end SqlSyntax
