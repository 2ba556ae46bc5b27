import SqlSyntax.Tree.Walk

/-!
# The depth walk computes the depth

The walk with an explicit stack (`Expr.stackDepth`) finds the same number as the recursive
depth, and that depth is one level more than the deepest child the walk collects: it counts the
levels through exactly the children the walk pushes.

The argument is an invariant of the walk.  An entry `(e, level)` of the stack will lead the walk
down to `level` plus the depth below `e`, the deepest of its children; the deepest of these over
the whole stack, together with the deepest level already met, is what the walk returns
(`Expr.depthLoop_eq`).  A step keeps that number: the children pushed one level below the popped
entry reach exactly as far as the entry did (`Expr.stackReach_step`).

Main statement: `Expr.stackDepth_eq_depth`.
-/

namespace SqlSyntax

namespace Expr

/-! ## The depth through the children -/

theorem maxDepth_append (es es' : List Expr) :
    maxDepth (es ++ es') = max (maxDepth es) (maxDepth es') := by
  induction es with
  | nil => simp [maxDepth]
  | cons e es ih => simp [maxDepth, ih, Nat.max_assoc]

theorem maxDepth_flatMap_arms (arms : List CaseArm) :
    maxDepth (arms.flatMap fun a => [a.test, a.result]) = CaseArm.maxDepth arms := by
  induction arms with
  | nil => rfl
  | cons a arms ih => cases a; simp [maxDepth, CaseArm.maxDepth, ih]

theorem maxDepth_map_key (keys : List SortKey) :
    maxDepth (keys.map SortKey.key) = SortKey.maxDepth keys := by
  induction keys with
  | nil => rfl
  | cons k keys ih => cases k; simp [maxDepth, SortKey.maxDepth, ih]

theorem maxDepth_toList (o : Option Expr) : maxDepth o.toList = optDepth o := by
  cases o <;> simp [maxDepth, optDepth]

/-- An expression is one level deeper than the deepest of the children the walk collects. -/
theorem depth_eq_maxDepth_children (e : Expr) : e.depth = maxDepth e.children + 1 := by
  cases e with
  | call f => cases f <;> simp [depth, children, Call.depthBelow, maxDepth]
  | window w =>
    obtain ⟨f, p, o, fr⟩ := w
    simp [depth, children, WindowCall.depthBelow, maxDepth, maxDepth_append, maxDepth_map_key]
  | searchedCase arms otherwise | simpleCase _ arms otherwise =>
    simp [depth, children, maxDepth, maxDepth_append, maxDepth_flatMap_arms, maxDepth_toList]
  | _ => simp [depth, children, maxDepth]

/-! ## How deep a stack leads -/

/-- The deepest level the walk reaches from the entries of a stack: an entry `(e, level)` leads
to `level` plus the depth of the deepest child of `e`. -/
def stackReach : List (Expr × Nat) → Nat
  | [] => 0
  | (e, level) :: rest => max (level + maxDepth e.children) (stackReach rest)

theorem stackReach_append (s s' : List (Expr × Nat)) :
    stackReach (s ++ s') = max (stackReach s) (stackReach s') := by
  induction s with
  | nil => simp [stackReach]
  | cons p s ih =>
    obtain ⟨e, level⟩ := p
    simp [stackReach, ih, Nat.max_assoc]

theorem stackReach_reverse (s : List (Expr × Nat)) : stackReach s.reverse = stackReach s := by
  induction s with
  | nil => rfl
  | cons p s ih =>
    obtain ⟨e, level⟩ := p
    simp [stackReach, stackReach_append, ih, Nat.max_comm]

/-- Children pushed one level below `level` lead as deep as `level` plus the deepest of them;
with no children, as deep as `level`. -/
theorem max_stackReach_children (level : Nat) (cs : List Expr) :
    max level (stackReach (cs.map (·, level + 1))) = level + maxDepth cs := by
  induction cs with
  | nil => simp [stackReach, maxDepth]
  | cons c cs ih =>
    have hc := depth_eq_maxDepth_children c
    simp only [List.map_cons, stackReach, maxDepth]
    omega

/-! ## The walk -/

/-- One step of the walk keeps how deep the walk leads: popping `(e, level)` and pushing its
children one level below reaches as deep, counting `level` as met. -/
theorem stackReach_step (deepest level : Nat) (e : Expr) (rest : List (Expr × Nat)) :
    max (max deepest level) (stackReach ((e.children.map (·, level + 1)).reverse ++ rest)) =
      max deepest (stackReach ((e, level) :: rest)) := by
  have hkids := max_stackReach_children level e.children
  rw [stackReach_append, stackReach_reverse, stackReach]
  omega

/-- The walk returns the deepest level already met or reached from its stack. -/
theorem depthLoop_eq (deepest : Nat) (stack : List (Expr × Nat)) :
    depthLoop deepest stack [] = max deepest (stackReach stack) := by
  -- the scratch list is empty at the head of every step: the step before drained it
  suffices h : ∀ scratch, scratch = [] →
      depthLoop deepest stack scratch = max deepest (stackReach stack) from h [] rfl
  intro scratch hs
  fun_induction depthLoop deepest stack scratch with
  | case1 d sc => simp [stackReach]
  | case2 d e level rest sc ih =>
    subst hs
    rw [ih rfl, List.nil_append, stackReach_step]

/-- The walk from the expression alone counts its levels. -/
theorem stackDepth_eq (e : Expr) : e.stackDepth = e.depth := by
  have hd := depth_eq_maxDepth_children e
  rw [stackDepth, depthLoop_eq, stackReach, stackReach]
  omega

/-- The walk with an explicit stack ends with the depth of the expression, which is one level
more than the deepest child the walk collects. -/
theorem stackDepth_eq_depth (e : Expr) :
    e.stackDepth = e.depth ∧ e.depth = maxDepth e.children + 1 :=
  ⟨stackDepth_eq e, depth_eq_maxDepth_children e⟩

example :
    (Expr.or (.searchedCase [⟨.not (col "a"), lit "1"⟩] none) (col "a")).stackDepth = 4 := by
  simp [stackDepth, depthLoop, children, col, lit]

end Expr

end SqlSyntax
