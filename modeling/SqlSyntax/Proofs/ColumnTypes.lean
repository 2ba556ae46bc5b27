import Mathlib.Data.List.Forall2
import SqlSyntax.Mutation

/-!
# Renaming column types

`CreateTable.changeTypes` gives every column's type the name a mapping holds for the type's
upper-case name, keeping or dropping its parameters.  It succeeds exactly when the mapping has
the key of every column; the new definition then differs from the old in its columns alone, and
each column in its type alone.  Otherwise it fails, naming the key of the first column in order
that the mapping lacks.

Both halves rest on what `List.mapM` does in `Except`: it succeeds with the images of the items
when every item succeeds (`except_mapM_eq_ok_iff`), and otherwise fails with the error of the
first item that fails (`except_mapM_eq_error_iff`).

Because the renaming goes column by column, it composes column by column.  Renaming through
one mapping and then another is renaming once through `TypeMapping.andThen`, which looks the
second mapping up by the upper case of the first one's name; it succeeds exactly when the two
steps do and gives the same definition, though the two may fail naming different columns.  And
adding a column the mapping can rename commutes with renaming, failures included.

Main statements: `CreateTable.changeTypes_spec` and `CreateTable.changeTypes_compose`.
-/

namespace SqlSyntax

/-! ## Mapping a list in `Except` -/

section MapM

variable {α β ε : Type} {f : α → Except ε β}

lemma except_mapM_cons (a : α) (l : List α) :
    (a :: l).mapM f = (f a).bind fun b => (l.mapM f).map (b :: ·) := by
  rw [List.mapM_cons]
  cases f a <;> cases l.mapM f <;> rfl

/-- Mapping a list succeeds with exactly the lists of images of its items. -/
theorem except_mapM_eq_ok_iff {l : List α} {l' : List β} :
    l.mapM f = .ok l' ↔ List.Forall₂ (fun a b => f a = .ok b) l l' := by
  induction l generalizing l' with
  | nil => cases l' <;> simp [pure, Except.pure]
  | cons a l ih =>
    rw [except_mapM_cons]
    cases h : f a with
    | error e => cases l' <;> simp [Except.bind, h]
    | ok b =>
      cases hl : l.mapM f with
      | error e => cases l' <;> simp_all [Except.bind, Except.map]
      | ok bs => cases l' <;> simp_all [Except.bind, Except.map]

/-- Mapping a list succeeds exactly when every item does. -/
theorem exists_except_mapM_eq_ok_iff {l : List α} :
    (∃ l', l.mapM f = .ok l') ↔ ∀ a ∈ l, ∃ b, f a = .ok b := by
  induction l with
  | nil => simp [pure, Except.pure]
  | cons a l ih =>
    rw [except_mapM_cons, List.forall_mem_cons, ← ih]
    cases h : f a with
    | error e => simp [Except.bind]
    | ok b => cases l.mapM f <;> simp [Except.bind, Except.map]

/-- Mapping a list fails with the error of the first item that fails. -/
theorem except_mapM_eq_error_iff {l : List α} {e : ε} :
    l.mapM f = .error e ↔
      ∃ j, ∃ hj : j < l.length, f l[j] = .error e ∧ ∀ i (hi : i < j), ∃ b, f l[i] = .ok b := by
  induction l with
  | nil => simp [pure, Except.pure]
  | cons a l ih =>
    rw [except_mapM_cons]
    cases h : f a with
    | error e' =>
      -- the head fails: it is the first failure, and no later index can be
      simp only [Except.bind, Except.error.injEq]
      constructor
      · rintro rfl
        exact ⟨0, Nat.succ_pos _, h, fun i hi => absurd hi (Nat.not_lt_zero i)⟩
      · rintro ⟨j, hj, hf, hbefore⟩
        cases j with
        | zero => simpa [h] using hf
        | succ k =>
          obtain ⟨b, hb⟩ := hbefore 0 (Nat.succ_pos k)
          simp [h] at hb
    | ok b =>
      -- the head succeeds: the first failure is one of the tail, one index later
      have hmap : ((l.mapM f).map (b :: ·) = .error e) ↔ l.mapM f = .error e := by
        cases l.mapM f <;> simp [Except.map]
      simp only [Except.bind, hmap, ih]
      constructor
      · rintro ⟨k, hk, hf, hbefore⟩
        refine ⟨k + 1, by simpa using hk, by simpa using hf, fun i hi => ?_⟩
        cases i with
        | zero => exact ⟨b, h⟩
        | succ i => simpa using hbefore i (by omega)
      · rintro ⟨j, hj, hf, hbefore⟩
        cases j with
        | zero => simp [h] at hf
        | succ k =>
          exact ⟨k, by simpa using hj, by simpa using hf,
            fun i hi => by simpa using hbefore (i + 1) (by omega)⟩

/-- Two results that succeed with the same values still do after the same map. -/
lemma except_map_eq_ok_congr {γ : Type} {x y : Except ε α} (g : α → γ)
    (h : ∀ a, x = .ok a ↔ y = .ok a) (c : γ) : x.map g = .ok c ↔ y.map g = .ok c := by
  rcases x with e | a <;> rcases y with e' | b
  · simp [Except.map]
  · exact absurd ((h b).2 rfl) (by simp)
  · exact absurd ((h a).1 rfl) (by simp)
  · obtain rfl : b = a := by simpa using (h a).1 rfl
    rfl

end MapM

/-! ## Mappings one after another -/

/-- Renaming through `m₁` and then through `m₂`: the second mapping is looked up by the upper
case of the name the first one gives. -/
def TypeMapping.andThen (m₁ m₂ : TypeMapping) : TypeMapping :=
  fun k => (m₁ k).bind fun name => m₂ (Text.toUpper name)

namespace CreateTable

variable (m : TypeMapping) (r : Bool)

/-! ## One column -/

/-- A column is renamed exactly when the mapping has its key: the type takes the mapped name and
keeps its parameters unless they are dropped, and nothing else of the column changes. -/
lemma renameColumnType_eq_ok_iff (c c' : ColumnDef) :
    renameColumnType m r c = .ok c' ↔
      ∃ name, m (Text.toUpper c.columnType.name) = some name ∧
        c' = { c with columnType := { name, params := if r then none else c.columnType.params } } := by
  unfold renameColumnType
  cases h : m (Text.toUpper c.columnType.name) with
  | none => simp [h]
  | some name => simp [h, eq_comm]

/-- A column fails exactly when the mapping lacks its key, and the fault names the key. -/
lemma renameColumnType_eq_error_iff (c : ColumnDef) (e : SqlError) :
    renameColumnType m r c = .error e ↔
      m (Text.toUpper c.columnType.name) = none ∧ e = .unmappedType (Text.toUpper c.columnType.name) := by
  unfold renameColumnType
  cases h : m (Text.toUpper c.columnType.name) with
  | none => simp [h, eq_comm]
  | some name => simp [h]

/-! ## The whole definition -/

lemma changeTypes_eq (s : CreateTable) :
    s.changeTypes m r = (s.columns.mapM (renameColumnType m r)).map fun columns => { s with columns } := by
  unfold changeTypes
  cases s.columns.mapM (renameColumnType m r) <;> rfl

/-- Renaming succeeds exactly with the definitions that differ from `s` only in their columns,
each column renamed on its own. -/
theorem changeTypes_eq_ok_iff (s s' : CreateTable) :
    s.changeTypes m r = .ok s' ↔
      { s' with columns := s.columns } = s ∧
        List.Forall₂ (fun c c' => renameColumnType m r c = .ok c') s.columns s'.columns := by
  rw [changeTypes_eq, ← except_mapM_eq_ok_iff]
  cases h : s.columns.mapM (renameColumnType m r) with
  | error e => simp [Except.map]
  | ok cs =>
    simp only [Except.map, Except.ok.injEq]
    constructor
    · rintro rfl
      exact ⟨rfl, rfl⟩
    · rintro ⟨hs, rfl⟩
      rw [← hs]

/-- Renaming fails exactly with the fault of the first column that fails. -/
theorem changeTypes_eq_error_iff (s : CreateTable) (e : SqlError) :
    s.changeTypes m r = .error e ↔ s.columns.mapM (renameColumnType m r) = .error e := by
  rw [changeTypes_eq]
  cases s.columns.mapM (renameColumnType m r) <;> simp [Except.map]

/-- Renaming column types through a mapping keyed by upper-case type names:

* it succeeds exactly when the mapping has the key of every column;
* a success differs from `s` in its columns alone, has as many columns, and renames the type of
  each column to the mapped name, dropping the parameters if asked and changing nothing else;
* it fails exactly with the fault naming the key of the first column the mapping lacks. -/
theorem changeTypes_spec (s : CreateTable) :
    ((∃ s', s.changeTypes m r = .ok s') ↔
        ∀ c ∈ s.columns, (m (Text.toUpper c.columnType.name)).isSome) ∧
    (∀ s', s.changeTypes m r = .ok s' →
        { s' with columns := s.columns } = s ∧ s'.columns.length = s.columns.length ∧
        ∀ j (hj : j < s.columns.length) (hj' : j < s'.columns.length),
          ∃ name, m (Text.toUpper s.columns[j].columnType.name) = some name ∧
            s'.columns[j] = { s.columns[j] with
              columnType := { name, params := if r then none else s.columns[j].columnType.params } }) ∧
    (∀ e, s.changeTypes m r = .error e ↔
        ∃ j, ∃ hj : j < s.columns.length,
          m (Text.toUpper s.columns[j].columnType.name) = none ∧
          (∀ i (hi : i < j), (m (Text.toUpper s.columns[i].columnType.name)).isSome) ∧
          e = .unmappedType (Text.toUpper s.columns[j].columnType.name)) := by
  refine ⟨?_, fun s' h => ?_, fun e => ?_⟩
  · -- success is the success of every column, which is the presence of its key
    have hcol : ∀ c, (∃ c', renameColumnType m r c = .ok c') ↔
        (m (Text.toUpper c.columnType.name)).isSome := by
      intro c
      simp only [renameColumnType_eq_ok_iff, Option.isSome_iff_exists]
      exact ⟨fun ⟨_, name, hn, _⟩ => ⟨name, hn⟩, fun ⟨name, hn⟩ => ⟨_, name, hn, rfl⟩⟩
    simp only [← hcol]
    rw [← exists_except_mapM_eq_ok_iff]
    constructor
    · rintro ⟨s', hs'⟩
      rw [changeTypes_eq] at hs'
      cases h : s.columns.mapM (renameColumnType m r) with
      | error e => simp [h, Except.map] at hs'
      | ok cs => exact ⟨cs, rfl⟩
    · rintro ⟨cs, hcs⟩
      exact ⟨_, by rw [changeTypes_eq, hcs]; rfl⟩
  · obtain ⟨hs, hall⟩ := (changeTypes_eq_ok_iff m r s s').mp h
    obtain ⟨hlen, hget⟩ := List.forall₂_iff_get.mp hall
    refine ⟨hs, hlen.symm, fun j hj hj' => ?_⟩
    exact (renameColumnType_eq_ok_iff m r _ _).mp (hget j hj hj')
  · rw [changeTypes_eq_error_iff, except_mapM_eq_error_iff]
    simp only [renameColumnType_eq_error_iff, renameColumnType_eq_ok_iff, Option.isSome_iff_exists]
    constructor
    · rintro ⟨j, hj, ⟨hnone, he⟩, hbefore⟩
      refine ⟨j, hj, hnone, fun i hi => ?_, he⟩
      obtain ⟨_, name, hn, _⟩ := hbefore i hi
      exact ⟨name, hn⟩
    · rintro ⟨j, hj, hnone, hbefore, he⟩
      refine ⟨j, hj, ⟨hnone, he⟩, fun i hi => ?_⟩
      obtain ⟨name, hn⟩ := hbefore i hi
      exact ⟨_, name, hn, rfl⟩

/-! ## Renaming twice -/

section Twice

variable {m₁ m₂ : TypeMapping} {r₁ r₂ : Bool}

/-- A column renamed through `m₁` renames through `m₂` to what the original column renames to
through both mappings at once, the parameters dropped if either renaming drops them. -/
lemma renameColumnType_andThen {c c₁ : ColumnDef} (h₁ : renameColumnType m₁ r₁ c = .ok c₁)
    (c₂ : ColumnDef) :
    renameColumnType m₂ r₂ c₁ = .ok c₂ ↔
      renameColumnType (m₁.andThen m₂) (r₁ || r₂) c = .ok c₂ := by
  obtain ⟨name, hname, rfl⟩ := (renameColumnType_eq_ok_iff m₁ r₁ c c₁).1 h₁
  simp only [renameColumnType_eq_ok_iff, TypeMapping.andThen, hname, Option.bind_some]
  -- both sides ask `m₂` for the upper case of `name`; the parameters agree flag by flag
  constructor
  · rintro ⟨name₂, h₂, rfl⟩
    exact ⟨name₂, h₂, by cases r₁ <;> cases r₂ <;> rfl⟩
  · rintro ⟨name₂, h₂, rfl⟩
    exact ⟨name₂, h₂, by cases r₁ <;> cases r₂ <;> rfl⟩

/-- A column the combined mapping renames is one the first mapping renames. -/
lemma exists_renameColumnType_of_andThen {r : Bool} {c c₂ : ColumnDef}
    (h : renameColumnType (m₁.andThen m₂) r c = .ok c₂) :
    ∃ c₁, renameColumnType m₁ r₁ c = .ok c₁ := by
  obtain ⟨name₂, h₂, -⟩ := (renameColumnType_eq_ok_iff _ _ c c₂).1 h
  obtain ⟨name, hname, -⟩ := Option.bind_eq_some_iff.1 h₂
  exact ⟨_, (renameColumnType_eq_ok_iff m₁ r₁ c _).2 ⟨name, hname, rfl⟩⟩

/-- Column lists renamed through `m₁` rename through `m₂` to exactly the lists the originals
rename to through both mappings at once. -/
lemma forall₂_renameColumnType_andThen {cs cs₁ : List ColumnDef}
    (h₁ : List.Forall₂ (fun c c₁ => renameColumnType m₁ r₁ c = .ok c₁) cs cs₁)
    (cs₂ : List ColumnDef) :
    List.Forall₂ (fun c₁ c₂ => renameColumnType m₂ r₂ c₁ = .ok c₂) cs₁ cs₂ ↔
      List.Forall₂ (fun c c₂ => renameColumnType (m₁.andThen m₂) (r₁ || r₂) c = .ok c₂) cs cs₂ := by
  induction h₁ generalizing cs₂ with
  | nil => simp only [List.forall₂_nil_left_iff]
  | cons hc _ ih =>
    cases cs₂ with
    | nil => simp only [List.forall₂_nil_right_iff, reduceCtorEq]
    | cons c₂ cs₂ => rw [List.forall₂_cons, List.forall₂_cons, renameColumnType_andThen hc, ih]

/-- Renaming through `m₁` and then, on success, through `m₂` succeeds exactly when renaming
through both mappings at once does, the parameters dropped if either renaming drops them, and
then the two give the same definition. -/
lemma changeTypes_bind_changeTypes (t t' : CreateTable) :
    ((t.changeTypes m₁ r₁).bind fun t₁ => t₁.changeTypes m₂ r₂) = .ok t' ↔
      t.changeTypes (m₁.andThen m₂) (r₁ || r₂) = .ok t' := by
  rw [changeTypes_eq, changeTypes_eq]
  cases h : t.columns.mapM (renameColumnType m₁ r₁) with
  | error e =>
    -- the first renaming stops at a column `m₁` cannot rename, and so does the combined one
    simp only [Except.map, Except.bind, reduceCtorEq, false_iff]
    intro hok
    obtain ⟨cs₂, hcs₂⟩ : ∃ cs₂, t.columns.mapM (renameColumnType (m₁.andThen m₂) (r₁ || r₂)) =
        .ok cs₂ := by
      cases hm : t.columns.mapM (renameColumnType (m₁.andThen m₂) (r₁ || r₂)) with
      | error e' => simp [hm] at hok
      | ok cs₂ => exact ⟨cs₂, rfl⟩
    have hall := exists_except_mapM_eq_ok_iff.1 ⟨cs₂, hcs₂⟩
    obtain ⟨cs₁, hcs₁⟩ : ∃ cs₁, t.columns.mapM (renameColumnType m₁ r₁) = .ok cs₁ :=
      exists_except_mapM_eq_ok_iff.2 fun c hc =>
        (hall c hc).elim fun _ hc₂ => exists_renameColumnType_of_andThen hc₂
    rw [h] at hcs₁
    cases hcs₁
  | ok cs₁ =>
    simp only [Except.map, Except.bind]
    rw [changeTypes_eq]
    refine except_map_eq_ok_congr _ (fun cs₂ => ?_) t'
    rw [except_mapM_eq_ok_iff, except_mapM_eq_ok_iff]
    exact forall₂_renameColumnType_andThen (except_mapM_eq_ok_iff.1 h) cs₂

end Twice

/-- Renaming the columns of a definition with one more column: when the mapping has the added
column's key, it is the renamed definition with the renamed column added, and otherwise it
fails as renaming the definition does. -/
lemma changeTypes_appendColumn (t : CreateTable) {c : ColumnDef} {name : String}
    (h : m (Text.toUpper c.columnType.name) = some name) :
    (t.appendColumn c).changeTypes m r =
      (t.changeTypes m r).map fun t' => t'.appendColumn
        { c with columnType := { name, params := if r then none else c.columnType.params } } := by
  have hc : renameColumnType m r c =
      .ok { c with columnType := { name, params := if r then none else c.columnType.params } } :=
    (renameColumnType_eq_ok_iff m r c _).2 ⟨name, h, rfl⟩
  rw [changeTypes_eq, changeTypes_eq]
  simp only [appendColumn, List.mapM_append, List.mapM_cons, List.mapM_nil, hc]
  cases t.columns.mapM (renameColumnType m r) <;> rfl

/-- Renaming column types composes column by column:

* renaming through `m₁` and then, on success, through `m₂` succeeds exactly when renaming
  through `m₁.andThen m₂` succeeds, with the parameters dropped when either renaming drops them,
  and both then give the same definition;
* renaming a definition with an added column whose key the mapping has gives the renamed
  definition with the renamed column added, and fails as the definition alone does. -/
theorem changeTypes_compose (t : CreateTable) :
    (∀ (m₁ m₂ : TypeMapping) (r₁ r₂ : Bool) (t' : CreateTable),
      ((t.changeTypes m₁ r₁).bind fun t₁ => t₁.changeTypes m₂ r₂) = .ok t' ↔
        t.changeTypes (m₁.andThen m₂) (r₁ || r₂) = .ok t') ∧
    (∀ (m : TypeMapping) (r : Bool) (c : ColumnDef) (name : String),
      m (Text.toUpper c.columnType.name) = some name →
        (t.appendColumn c).changeTypes m r =
          (t.changeTypes m r).map fun t' => t'.appendColumn
            { c with columnType := { name, params := if r then none else c.columnType.params } }) :=
  ⟨fun _ _ _ _ t' => changeTypes_bind_changeTypes t t',
    fun m r _ _ h => changeTypes_appendColumn m r t h⟩

/-- A table whose `DATE` column the mapping lacks fails to rename with or without an added
`int` column, which the mapping renames to `BIGINT`. -/
theorem changeTypes_append_to_unmapped :
    TypeMapping.ofPairs [("INT", "BIGINT")] (Text.toUpper "int") = some "BIGINT" ∧
    (({ table := { table := "t" }
        columns := [{ name := "d", columnType := { name := "DATE" } }] } : CreateTable).appendColumn
        { name := "n", columnType := { name := "int" } }).changeTypes
        (TypeMapping.ofPairs [("INT", "BIGINT")]) true =
      (({ table := { table := "t" }
          columns := [{ name := "d", columnType := { name := "DATE" } }] } : CreateTable).changeTypes
        (TypeMapping.ofPairs [("INT", "BIGINT")]) true).map
        fun t' => t'.appendColumn { name := "n", columnType := { name := "BIGINT" } } := by
  have h : TypeMapping.ofPairs [("INT", "BIGINT")] (Text.toUpper "int") = some "BIGINT" := by
    decide +kernel
  exact ⟨h, (changeTypes_compose _).2 _ true { name := "n", columnType := { name := "int" } } _ h⟩

end CreateTable

end SqlSyntax
