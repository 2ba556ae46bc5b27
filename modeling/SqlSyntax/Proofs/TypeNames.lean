import SqlSyntax.Proofs.ColumnTypes

/-!
# The column type names

`CreateTable.typeNames` lists the keys a mapping for `CreateTable.changeTypes` must cover: the
upper-case type names of the columns, each once, in the order of its first occurrence.  It is
core's `List.eraseDups` of the column keys, so it holds every key, no key twice, and lists them
by the position where each first occurs; the partition columns play no part.

After a successful renaming, the type names of the new definition are the names the old type
names are mapped to, upper-cased and again listed once each at their first occurrence.  This
rests on one fact about first occurrences: they may be taken before or after any map of the
items, and only once (`firstOccurrences_map_firstOccurrences`).

Main statement: `CreateTable.typeNames_spec`.
-/

namespace SqlSyntax

/-! ## First occurrences -/

section FirstOccurrences

variable {α β : Type} [BEq α] [BEq β]

lemma firstOccurrences_cons (a : α) (l : List α) :
    firstOccurrences (a :: l) = a :: (firstOccurrences l).filter (· != a) := rfl

lemma firstOccurrences_sublist (l : List α) : (firstOccurrences l).Sublist l := by
  induction l with
  | nil => exact List.Sublist.slnil
  | cons a l ih => exact (List.filter_sublist.trans ih).cons_cons a

variable [LawfulBEq α] [LawfulBEq β]

/-- Keeping first occurrences and keeping the items a test accepts commute. -/
lemma filter_firstOccurrences (p : α → Bool) (l : List α) :
    (firstOccurrences l).filter p = firstOccurrences (l.filter p) := by
  induction l with
  | nil => rfl
  | cons a l ih =>
    by_cases hp : p a = true
    · simp only [firstOccurrences, List.filter_cons, hp, if_true, List.filter_filter, ← ih]
      congr 1
      exact List.filter_congr fun x _ => Bool.and_comm _ _
    · -- `a` is dropped on both sides, so removing its later copies changes nothing
      simp only [firstOccurrences, List.filter_cons, hp, Bool.false_eq_true, if_false,
        List.filter_filter, ← ih]
      refine List.filter_congr fun x _ => ?_
      by_cases hx : x = a
      · subst hx; simp [hp]
      · simp [hx]

theorem firstOccurrences_eq_eraseDups : ∀ l : List α, firstOccurrences l = l.eraseDups
  | [] => rfl
  | a :: l => by
    rw [firstOccurrences, List.eraseDups_cons, filter_firstOccurrences,
      firstOccurrences_eq_eraseDups (l.filter _)]
    rfl
termination_by l => l.length
decreasing_by exact Nat.lt_succ_of_le (List.length_filter_le _ _)

lemma mem_firstOccurrences {l : List α} {x : α} : x ∈ firstOccurrences l ↔ x ∈ l := by
  rw [firstOccurrences_eq_eraseDups, List.mem_eraseDups]

/-- The items are listed in the order of their first occurrences. -/
lemma pairwise_idxOf_firstOccurrences (l : List α) :
    (firstOccurrences l).Pairwise fun x y => l.idxOf x < l.idxOf y := by
  induction l with
  | nil => exact List.Pairwise.nil
  | cons a l ih =>
    -- every item after `a` is some other item, whose first occurrence in `a :: l` is one past
    -- its first occurrence in `l`
    have hne : ∀ x ∈ (firstOccurrences l).filter (· != a), x ≠ a := fun x hx => by
      simpa using (List.mem_filter.1 hx).2
    refine List.pairwise_cons.2 ⟨fun y hy => ?_, ?_⟩
    · simp [List.idxOf_cons_ne _ (Ne.symm (hne y hy))]
    · refine (ih.filter _).imp_of_mem fun hx hy hxy => ?_
      rw [List.idxOf_cons_ne _ (Ne.symm (hne _ hx)), List.idxOf_cons_ne _ (Ne.symm (hne _ hy))]
      exact Nat.succ_lt_succ hxy

/-- Taking first occurrences before a map as well as after it changes nothing. -/
theorem firstOccurrences_map_firstOccurrences (f : α → β) (l : List α) :
    firstOccurrences ((firstOccurrences l).map f) = firstOccurrences (l.map f) := by
  induction l with
  | nil => rfl
  | cons a l ih =>
    -- a copy of `a` maps to a copy of `f a`, which the outer pass drops anyway
    have hdrop : (((firstOccurrences l).filter (· != a)).map f).filter (· != f a) =
        ((firstOccurrences l).map f).filter (· != f a) := by
      rw [List.filter_map, List.filter_map, List.filter_filter]
      congr 1
      refine List.filter_congr fun x _ => ?_
      by_cases hx : x = a
      · subst hx; simp
      · simp [hx]
    calc firstOccurrences ((firstOccurrences (a :: l)).map f)
        = f a :: (firstOccurrences (((firstOccurrences l).filter (· != a)).map f)).filter
            (· != f a) := by rw [firstOccurrences_cons, List.map_cons, firstOccurrences_cons]
      _ = f a :: firstOccurrences (((firstOccurrences l).map f).filter (· != f a)) := by
          rw [filter_firstOccurrences (· != f a), hdrop]
      _ = firstOccurrences ((a :: l).map f) := by
          rw [← filter_firstOccurrences, ih, List.map_cons, firstOccurrences_cons]

end FirstOccurrences

/-! ## The type names of a definition -/

namespace CreateTable

/-- The upper-case type name of each column, in column order. -/
def typeKeys (s : CreateTable) : List String :=
  s.columns.map fun c => Text.toUpper c.columnType.name

lemma typeNames_eq (s : CreateTable) : s.typeNames = firstOccurrences s.typeKeys := rfl

/-- Columns renamed one by one: every key is in the mapping, and the renamed columns' keys are
the upper-cased names the mapping gives. -/
lemma keys_of_forall₂_renameColumnType {m : TypeMapping} {r : Bool} {cs cs' : List ColumnDef}
    (h : List.Forall₂ (fun c c' => renameColumnType m r c = .ok c') cs cs') :
    (∀ c ∈ cs, (m (Text.toUpper c.columnType.name)).isSome) ∧
      cs'.map (fun c => Text.toUpper c.columnType.name) =
        cs.map fun c => Text.toUpper ((m (Text.toUpper c.columnType.name)).getD "") := by
  induction h with
  | nil => simp
  | cons hc _ ih =>
    obtain ⟨name, hname, rfl⟩ := (renameColumnType_eq_ok_iff m r _ _).1 hc
    exact ⟨List.forall_mem_cons.2 ⟨by simp [hname], ih.1⟩, by simp [hname, ih.2]⟩

/-- The type names of a table definition:

* they are core's `List.eraseDups` of the columns' upper-case type names: those names, in order,
  each kept at its first occurrence only;
* so they are exactly those names, ordered by first occurrence, with no name twice, and no more
  of them than there are columns; the partition columns play no part;
* after a successful renaming they are the first occurrences of the upper-cased names that the
  old type names map to. -/
theorem typeNames_spec (s : CreateTable) :
    s.typeNames = s.typeKeys.eraseDups ∧
    (∀ x, x ∈ s.typeNames ↔ ∃ c ∈ s.columns, Text.toUpper c.columnType.name = x) ∧
    s.typeNames.Pairwise (fun x y => s.typeKeys.idxOf x < s.typeKeys.idxOf y) ∧
    s.typeNames.Nodup ∧
    s.typeNames.length ≤ s.columns.length ∧
    (∀ p, ({ s with partitionedBy := p } : CreateTable).typeNames = s.typeNames) ∧
    ∀ (m : TypeMapping) (r : Bool) (s' : CreateTable), s.changeTypes m r = .ok s' →
      ∃ names, List.Forall₂ (fun k v => m k = some v) s.typeNames names ∧
        s'.typeNames = (names.map Text.toUpper).eraseDups := by
  refine ⟨firstOccurrences_eq_eraseDups _, fun x => ?_, pairwise_idxOf_firstOccurrences _,
    typeNames_nodup s, ?_, fun _ => rfl, fun m r s' h => ?_⟩
  · simp [typeNames_eq, mem_firstOccurrences, typeKeys]
  · calc s.typeNames.length ≤ s.typeKeys.length := (firstOccurrences_sublist _).length_le
      _ = s.columns.length := List.length_map _
  · -- the new keys are the mapped old keys; deduplicating before the map as well changes nothing
    obtain ⟨hsome, hkeys⟩ :=
      keys_of_forall₂_renameColumnType ((changeTypes_eq_ok_iff m r s s').1 h).2
    refine ⟨(firstOccurrences s.typeKeys).map fun k => (m k).getD "", ?_, ?_⟩
    · rw [typeNames_eq, List.forall₂_map_right_iff, List.forall₂_same]
      intro k hk
      obtain ⟨c, hc, rfl⟩ := List.mem_map.1 (mem_firstOccurrences.1 hk)
      exact (Option.getD_of_ne_none (Option.isSome_iff_ne_none.1 (hsome c hc)) "").symm
    · rw [← firstOccurrences_eq_eraseDups, List.map_map, typeNames_eq,
        firstOccurrences_map_firstOccurrences, typeKeys, typeKeys, hkeys, List.map_map]
      rfl

/-- Renaming `VARCHAR` and `INT` both to `STRING` leaves one type name, `STRING`, where there
were two. -/
theorem typeNames_after_merging_rename :
    ∃ s', ({ table := { table := "t" }, columns :=
        [{ name := "a", columnType := { name := "varchar", params := some [.lit "32"] } },
          { name := "b", columnType := { name := "INT" } },
          { name := "c", columnType := { name := "Varchar" } }] } : CreateTable).changeTypes
        (TypeMapping.ofPairs [("VARCHAR", "STRING"), ("INT", "STRING")]) false = .ok s' ∧
      ∃ names, List.Forall₂
          (fun k v => TypeMapping.ofPairs [("VARCHAR", "STRING"), ("INT", "STRING")] k = some v)
          ({ table := { table := "t" }, columns :=
            [{ name := "a", columnType := { name := "varchar", params := some [.lit "32"] } },
              { name := "b", columnType := { name := "INT" } },
              { name := "c", columnType := { name := "Varchar" } }] } : CreateTable).typeNames
          names ∧
        s'.typeNames = (names.map Text.toUpper).eraseDups := by
  refine ⟨?table, ?renamed, (typeNames_spec _).2.2.2.2.2.2 _ _ ?table ?renamed⟩
  case renamed => rfl

-- `varchar` and `Varchar` share the key `VARCHAR`, listed where it first occurs.
example : ({ table := { table := "t" }, columns :=
    [{ name := "a", columnType := { name := "varchar" } },
      { name := "b", columnType := { name := "INT" } },
      { name := "c", columnType := { name := "Varchar" } }] } : CreateTable).typeNames =
      ["VARCHAR", "INT"] := by
  decide +kernel

end CreateTable

end SqlSyntax
