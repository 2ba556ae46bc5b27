import SqlSyntax.Proofs.Checks

/-!
# Renders do not show how operators group

The renderer writes no parentheses around operands: it only refuses an operand that binds more
loosely than its operator.  An operand of the operator's own tier is accepted on either side,
so a chain of operators of one tier is written the same however it is grouped: `(a - b) - c`
and `a - (b - c)` both come out as `a - b - c`.

This file proves that for every chain of two arithmetic operators over plain operands
(`Expr.emit_regroup_compute`, and `Expr.render_regroup_compute` for whole renders): regrouping
keeps the text and the fault alike, provided the depth budget covers both groupings.  Plain
expressions are those a render writes as a bare sequence of names, numbers and operator
spellings; over them the budget matters only through the depth check
(`Expr.emit_eq_emit_depth`).
-/

namespace SqlSyntax

namespace Emission

/-- An operand of its operator's own tier is written as it is. -/
@[simp] lemma operand_self (p : Tier) (body : Emission) : operand p p body = body :=
  if_pos (Nat.le_refl p.rank)

end Emission

namespace Expr

/-- Expressions built from columns, literals and the unary, arithmetic, comparison and logical
operators only. -/
def isPlain : Expr → Bool
  | column _ | literal _ => true
  | unary _ x | not x => x.isPlain
  | compute l _ r | compare l _ r | and l r | xor l r | or l r => l.isPlain && r.isPlain
  | _ => false

variable (o : RenderOptions)

/-- A plain expression renders the same with every budget that covers its depth. -/
theorem emit_eq_emit_depth : ∀ (e : Expr) (b : Nat), e.isPlain = true → e.depth ≤ b →
    e.emit o b = e.emit o e.depth
  | e, 0, _, hd => absurd hd (Nat.not_le.mpr e.depth_pos)
  | column _, _ + 1, _, _ | literal _, _ + 1, _, _ => rfl
  | unary op x, b + 1, h, hd => by
    simp only [isPlain] at h
    simp only [depth] at hd ⊢
    simp only [Expr.emit, emit_eq_emit_depth x b h (by omega)]
  | not x, b + 1, h, hd => by
    simp only [isPlain] at h
    simp only [depth] at hd ⊢
    simp only [Expr.emit, emit_eq_emit_depth x b h (by omega)]
  | compute l op r, b + 1, h, hd | compare l op r, b + 1, h, hd | and l r, b + 1, h, hd
  | xor l r, b + 1, h, hd | or l r, b + 1, h, hd => by
    simp only [isPlain, Bool.and_eq_true] at h
    simp only [depth] at hd ⊢
    -- both sides reach the operands with a budget that covers them; bring each to its depth
    have hl : ∀ c, l.depth ≤ c → l.emit o c = l.emit o l.depth :=
      fun c hc => emit_eq_emit_depth l c h.1 hc
    have hr : ∀ c, r.depth ≤ c → r.emit o c = r.emit o r.depth :=
      fun c hc => emit_eq_emit_depth r c h.2 hc
    simp only [Expr.emit, hl b (by omega), hr b (by omega), hl (max l.depth r.depth) (by omega),
      hr (max l.depth r.depth) (by omega)]
  | wildcard _, _ + 1, h, _ | call _, _ + 1, h, _ | window _, _ + 1, h, _
  | searchedCase _ _, _ + 1, h, _ | simpleCase _ _ _, _ + 1, h, _ | subquery _, _ + 1, h, _
  | tuple _, _ + 1, h, _ | subscript _ _, _ + 1, h, _ | condition _ _ _ _, _ + 1, h, _
  | between _ _ _ _, _ + 1, h, _ | «exists» _ _, _ + 1, h, _ => by simp [isPlain] at h

/-- Regrouping a chain of two arithmetic operators over plain operands changes nothing in its
emission, once the budget covers both groupings. -/
theorem emit_regroup_compute (l m r : Expr) (op₁ op₂ : ComputeOp) (hl : l.isPlain = true)
    (hm : m.isPlain = true) (hr : r.isPlain = true) (b : Nat)
    (hd : (compute (compute l op₁ m) op₂ r).depth ≤ b)
    (hd' : (compute l op₁ (compute m op₂ r)).depth ≤ b) :
    (compute (compute l op₁ m) op₂ r).emit o b = (compute l op₁ (compute m op₂ r)).emit o b := by
  simp only [depth] at hd hd'
  obtain ⟨k, rfl⟩ : ∃ k, b = k + 2 := ⟨b - 2, by omega⟩
  -- the outer operand of each grouping sits one level higher than in the other
  simp only [Expr.emit, tier_compute, Emission.operand_self,
    emit_eq_emit_depth o l (k + 1) hl (by omega), emit_eq_emit_depth o l k hl (by omega),
    emit_eq_emit_depth o m k hm (by omega),
    emit_eq_emit_depth o r (k + 1) hr (by omega), emit_eq_emit_depth o r k hr (by omega),
    Emission.append_assoc]

/-- A render cannot tell `(l op₁ m) op₂ r` from `l op₁ (m op₂ r)`: with a depth limit that
covers both groupings, the two render to the same text, or fail alike. -/
theorem render_regroup_compute (l m r : Expr) (op₁ op₂ : ComputeOp) (hl : l.isPlain = true)
    (hm : m.isPlain = true) (hr : r.isPlain = true)
    (hd : (compute (compute l op₁ m) op₂ r).depth ≤ o.maxDepth)
    (hd' : (compute l op₁ (compute m op₂ r)).depth ≤ o.maxDepth) :
    (compute (compute l op₁ m) op₂ r).render o = (compute l op₁ (compute m op₂ r)).render o := by
  rw [render, render, emit_regroup_compute o l m r op₁ op₂ hl hm hr o.maxDepth hd hd']

/-- `(a - b) - c` and `a - (b - c)` render alike under the default options. -/
theorem render_regroup_minus :
    (compute (compute (.column { column := "a" }) .minus (.column { column := "b" })) .minus
        (.column { column := "c" })).render {} =
      (compute (.column { column := "a" }) .minus
        (compute (.column { column := "b" }) .minus (.column { column := "c" }))).render {} :=
  render_regroup_compute {} _ _ _ .minus .minus rfl rfl rfl (by decide) (by decide)

/-- Two different trees with one text: `(a - b) - c` and `a - (b - c)` both render as
`a - b - c`, with the columns quoted. -/
theorem render_minus_chains_collide :
    compute (compute (.column { column := "a" }) .minus (.column { column := "b" })) .minus
        (.column { column := "c" }) ≠
      compute (.column { column := "a" }) .minus
        (compute (.column { column := "b" }) .minus (.column { column := "c" })) ∧
    (compute (compute (.column { column := "a" }) .minus (.column { column := "b" })) .minus
        (.column { column := "c" })).render {} = .ok "`a` - `b` - `c`" ∧
    (compute (.column { column := "a" }) .minus
        (compute (.column { column := "b" }) .minus (.column { column := "c" }))).render {} =
      .ok "`a` - `b` - `c`" :=
  ⟨by simp, rfl, rfl⟩

end Expr

end SqlSyntax
