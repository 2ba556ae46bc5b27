import SqlSyntax.Proofs.SeparatedList

/-!
# What steps write

Every sequence of steps has a meaning that mentions no writer: the emission it writes for the
render options and the number of levels left (`Step.emissionAll`).  Running the steps on a
writer appends that emission and reports its fault (`Writer.performAll_eq_append`), so what the
steps write does not depend on the text already written, and depends on the depth only through
the levels left; every step returns the writer to the depth and options it started with.

The proof is one induction over the steps, child nodes included.  Its one real case is the
nested step: below the limit it runs the body one level deeper, where one level fewer is left,
and then steps back up; at the limit it refuses, writing nothing.  Capturing restores the buffer
whether or not the body fails.

From the same induction: a separated list of steps is the emission-level list of their
emissions (`Writer.perform_list_eq_list`), and no writer that steps pass through from a writer
within its limit is ever deeper than its limit (`Writer.Visits.depth_le`).
-/

namespace SqlSyntax

namespace Step

mutual

/-- What a step writes for the options `o` with `b` levels left. -/
def emission (o : RenderOptions) : Nat → Step → Emission
  | _, .pushStr s => .ofString s
  | _, .indent => .ofString (String.ofList (List.replicate o.indent ' '))
  | _, .keyword s supported =>
    if supported o.dialect then .ofString s else .fail (.unsupportedFeature s o.dialect)
  | _, .fail e => .fail e
  | b, .node body => emissionAll o b body
  | b, .list items sep => Emission.sepBy sep (emissionEach o b items)
  | b, .capture body =>
    match (emissionAll o b body).fault with
    | some f => .fail f
    | none => .empty
  | 0, .nested _ => .fail (.tooDeep o.maxDepth)
  | b + 1, .nested body => emissionAll o b body

/-- What steps write one after another, up to the first fault. -/
def emissionAll (o : RenderOptions) : Nat → List Step → Emission
  | _, [] => .empty
  | b, s :: ss => emission o b s ++ emissionAll o b ss

/-- What each item of a list writes. -/
def emissionEach (o : RenderOptions) : Nat → List (List Step) → List Emission
  | _, [] => []
  | b, p :: ps => emissionAll o b p :: emissionEach o b ps

end

end Step

namespace Writer

@[simp] theorem options_pushStr (w : Writer) (s : String) : (w.pushStr s).options = w.options := rfl

@[simp] theorem depth_pushStr (w : Writer) (s : String) : (w.pushStr s).depth = w.depth := rfl

@[simp] theorem budget_pushStr (w : Writer) (s : String) : (w.pushStr s).budget = w.budget := rfl

/-! ## Running steps appends their emission -/

/-- At the limit a nested step refuses with the depth fault, and runs nothing. -/
theorem perform_nested_of_le (w : Writer) (body : List Step) (hd : w.options.maxDepth ≤ w.depth) :
    w.perform (.nested body) = (w, some (.tooDeep w.options.maxDepth)) := by
  simp [perform, nested, hd]

/-- Below the limit, a nested step whose body appends `e` when run one level deeper appends `e`
and returns to its own depth. -/
theorem perform_nested_of_lt (w : Writer) (body : List Step) (e : Emission)
    (hd : w.depth < w.options.maxDepth)
    (hbody : performAll { w with depth := w.depth + 1 } body =
      ({ w with depth := w.depth + 1 } : Writer).append e) :
    w.perform (.nested body) = w.append e := by
  simp [perform, nested, Nat.not_le.2 hd, hbody, append, pushStr]

mutual

/-- A step appends its emission at the writer's options and levels left, and reports its
fault. -/
theorem perform_eq_append (w : Writer) : ∀ s : Step,
    w.perform s = w.append (s.emission w.options w.budget)
  | .pushStr _ | .indent => rfl
  | .keyword s supported => by
    by_cases h : supported w.options.dialect <;>
      simp [perform, Step.emission, append, h, unsupported, Emission.fail]
  | .fail e => by simp [perform, Step.emission, append, Emission.fail]
  | .node body => by rw [perform, performAll_eq_append w body, Step.emission]
  | .list items sep => by
    rw [perform, performItems_eq_append w sep false items, Step.emission]
    rfl
  | .capture body => by
    -- the body runs on an empty buffer with the same options and levels left
    have h := performAll_eq_append { w with text := "" } body
    have hb : ({ w with text := "" } : Writer).budget = w.budget := rfl
    rw [hb] at h
    rcases hf : (Step.emissionAll w.options w.budget body).fault with _ | f <;>
      simp [perform, h, Step.emission, hf, append, pushStr, Emission.fail, Emission.empty]
  | .nested body => by
    by_cases hd : w.options.maxDepth ≤ w.depth
    · -- at the limit the step refuses, writing nothing
      have hb : w.budget = 0 := by simp only [budget]; omega
      rw [perform_nested_of_le w body hd, hb]
      simp [Step.emission, append, Emission.fail]
    · -- below it the body runs one level deeper, with one level fewer left
      obtain ⟨k, hk⟩ : ∃ k, w.budget = k + 1 := ⟨w.budget - 1, by simp only [budget]; omega⟩
      have hk' : ({ w with depth := w.depth + 1 } : Writer).budget = k := by
        simp only [budget] at hk ⊢
        omega
      rw [perform_nested_of_lt w body _ (by omega) (performAll_eq_append _ body), hk', hk]
      rfl

/-- Steps append their emissions in order, up to the first fault, and report that fault. -/
theorem performAll_eq_append (w : Writer) : ∀ ss : List Step,
    w.performAll ss = w.append (Step.emissionAll w.options w.budget ss)
  | [] => by simp [performAll, Step.emissionAll, append, Emission.empty]
  | s :: ss => by
    rw [performAll, perform_eq_append w s, Step.emissionAll]
    rcases hf : (s.emission w.options w.budget).fault with _ | f
    · -- the step succeeds: the rest runs after its text, with the same options and levels
      have hs : w.append (s.emission w.options w.budget) =
          (w.pushStr (s.emission w.options w.budget).text, none) := by simp [append, hf]
      rw [hs, append_append_of_ok _ hf]
      exact (performAll_eq_append _ ss).trans (by simp)
    · have hs : w.append (s.emission w.options w.budget) =
          (w.pushStr (s.emission w.options w.budget).text, some f) := by simp [append, hf]
      rw [hs, append_append_of_fault _ hf]

/-- The items of a list append their emissions joined by the separator, and a separator before
the first as well when an item came before it. -/
theorem performItems_eq_append (w : Writer) (sep : String) : ∀ (leading : Bool)
    (items : List (List Step)),
    w.performItems sep leading items =
      w.append ((if leading then Emission.prefixEach sep else Emission.sepBy sep)
        (Step.emissionEach w.options w.budget items))
  | leading, [] => by
    cases leading <;>
      simp [performItems, Step.emissionEach, Emission.prefixEach, Emission.sepBy, append,
        Emission.empty]
  | leading, p :: ps => by
    -- the item starts after the separator when an item came before it
    have hstart : w.append ((if leading then Emission.prefixEach sep else Emission.sepBy sep)
          (Step.emissionEach w.options w.budget (p :: ps))) =
        (if leading then w.pushStr sep else w).append
          (Step.emissionAll w.options w.budget p ++
            Emission.prefixEach sep (Step.emissionEach w.options w.budget ps)) := by
      cases leading
      · simp [Step.emissionEach, Emission.sepBy_cons]
      · simp only [Step.emissionEach, Emission.prefixEach, Emission.append_assoc, if_true]
        exact append_append_of_ok w (Emission.fault_ofString sep) _
    have hv : (if leading then w.pushStr sep else w).options = w.options ∧
        (if leading then w.pushStr sep else w).budget = w.budget := by
      cases leading <;> exact ⟨rfl, rfl⟩
    rw [hstart, performItems, performAll_eq_append _ p, hv.1, hv.2]
    rcases hf : (Step.emissionAll w.options w.budget p).fault with _ | f
    · -- the item succeeds: the later items follow its text, each after the separator
      rw [append_append_of_ok _ hf]
      simp only [append, hf]
      exact (performItems_eq_append _ sep true ps).trans (by simp [append, hv.1, hv.2])
    · rw [append_append_of_fault _ hf]
      simp [append, hf]

end

/-- A step returns the writer to the depth it started at, whatever it reports. -/
@[simp] theorem depth_perform (w : Writer) (s : Step) : (w.perform s).1.depth = w.depth := by
  rw [perform_eq_append]
  rfl

/-- A step keeps the writer's options. -/
@[simp] theorem options_perform (w : Writer) (s : Step) : (w.perform s).1.options = w.options := by
  rw [perform_eq_append]
  rfl

/-- Capturing steps gives their text when they succeed, else their fault, and leaves the writer
as it was. -/
theorem captureAll_eq (w : Writer) (body : List Step) :
    w.captureAll body = (w, (Step.emissionAll w.options w.budget body).result) := by
  have h := performAll_eq_append { w with text := "" } body
  have hb : ({ w with text := "" } : Writer).budget = w.budget := rfl
  rw [hb] at h
  rcases hf : (Step.emissionAll w.options w.budget body).fault with _ | f <;>
    simp [captureAll, h, append, pushStr, Emission.result, hf]

/-- A list of items given by their steps writes what the list of their emissions writes, so
everything said of `Writer.list` holds of it. -/
theorem perform_list_eq_list (w : Writer) (items : List (List Step)) (sep : String) :
    w.perform (.list items sep) = w.list (items.map fun p o b => Step.emissionAll o b p) sep := by
  have heach : ∀ ps : List (List Step), Step.emissionEach w.options w.budget ps =
      ps.map fun p => Step.emissionAll w.options w.budget p := by
    intro ps
    induction ps with
    | nil => rfl
    | cons p ps ih => simp [Step.emissionEach, ih]
  rw [perform_eq_append, Step.emission, list, heach, List.map_map]
  rfl

/-! ## No writer goes deeper than its limit -/

/-- The writers that steps pass through from `w`, inside child nodes, list items, captures and
nested bodies too.  A step is followed by the next whatever it reported, so the writers of
every run, however early it stops, are among them. -/
inductive Visits : Writer → List Step → Writer → Prop
  | here (w : Writer) (ss : List Step) : Visits w ss w
  | next {w v : Writer} {s : Step} {ss : List Step} :
      Visits (w.perform s).1 ss v → Visits w (s :: ss) v
  | node {w v : Writer} {body ss : List Step} :
      Visits w body v → Visits w (.node body :: ss) v
  | list {w v : Writer} {items : List (List Step)} {sep : String} {ss : List Step} :
      Visits w (listSteps sep items) v → Visits w (.list items sep :: ss) v
  | capture {w v : Writer} {body ss : List Step} :
      Visits { w with text := "" } body v → Visits w (.capture body :: ss) v
  | nested {w v : Writer} {body ss : List Step} :
      w.depth < w.options.maxDepth → Visits { w with depth := w.depth + 1 } body v →
      Visits w (.nested body :: ss) v

/-- A writer within its limit only passes through writers within their limits: a nested step
enters a level only below the limit, and every step returns to the depth it started at. -/
theorem Visits.depth_le {w v : Writer} {ss : List Step} (h : Visits w ss v)
    (hw : w.depth ≤ w.options.maxDepth) : v.depth ≤ v.options.maxDepth := by
  induction h with
  | here => exact hw
  | next _ ih => exact ih (by simpa using hw)
  | node _ ih | list _ ih | capture _ ih => exact ih hw
  | nested hlt _ ih => exact ih hlt

end Writer

end SqlSyntax
