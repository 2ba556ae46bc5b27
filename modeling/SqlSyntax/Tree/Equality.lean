import SqlSyntax.Tree

/-!
# Structural equality of expressions and queries

Two trees are equal when they have the same shape and the same leaves, field by field.  The
comparison is written out over the mutual block, since the instance cannot be derived for
structures nested inside one another through lists and options.  `BEq` instances for every
type of the block follow it.
-/

namespace SqlSyntax

mutual

/-- Structural equality of expressions. -/
def Expr.beq : Expr → Expr → Bool
  | .column a, .column b => a == b
  | .literal a, .literal b => a == b
  | .wildcard a, .wildcard b => a == b
  | .call a, .call b => a.beq b
  | .window a, .window b => a.beq b
  | .searchedCase as o, .searchedCase bs p => CaseArm.beqList as bs && Expr.beqOpt o p
  | .simpleCase s as o, .simpleCase t bs p =>
      s.beq t && CaseArm.beqList as bs && Expr.beqOpt o p
  | .subquery a, .subquery b => a.beq b
  | .tuple as, .tuple bs => Expr.beqList as bs
  | .subscript a i, .subscript b j => a.beq b && i.beq j
  | .unary op a, .unary op' b => op == op' && a.beq b
  | .compute l op r, .compute l' op' r' => l.beq l' && op == op' && r.beq r'
  | .condition k n l r, .condition k' n' l' r' => k == k' && n == n' && l.beq l' && r.beq r'
  | .between n v lo hi, .between n' v' lo' hi' => n == n' && v.beq v' && lo.beq lo' && hi.beq hi'
  | .exists n a, .exists n' b => n == n' && a.beq b
  | .compare l op r, .compare l' op' r' => l.beq l' && op == op' && r.beq r'
  | .not a, .not b => a.beq b
  | .and l r, .and l' r' => l.beq l' && r.beq r'
  | .xor l r, .xor l' r' => l.beq l' && r.beq r'
  | .or l r, .or l' r' => l.beq l' && r.beq r'
  | _, _ => false
termination_by structural a _ => a

/-- Structural equality of lists of expressions. -/
def Expr.beqList : List Expr → List Expr → Bool
  | [], [] => true
  | a :: as, b :: bs => a.beq b && Expr.beqList as bs
  | _, _ => false
termination_by structural a _ => a

/-- Structural equality of optional expressions. -/
def Expr.beqOpt : Option Expr → Option Expr → Bool
  | none, none => true
  | some a, some b => a.beq b
  | _, _ => false
termination_by structural a _ => a

/-- Structural equality of optional lists of expressions. -/
def Expr.beqOptList : Option (List Expr) → Option (List Expr) → Bool
  | none, none => true
  | some as, some bs => Expr.beqList as bs
  | _, _ => false
termination_by structural a _ => a

/-- Structural equality of lists of lists of expressions. -/
def Expr.beqSets : List (List Expr) → List (List Expr) → Bool
  | [], [] => true
  | a :: as, b :: bs => Expr.beqList a b && Expr.beqSets as bs
  | _, _ => false
termination_by structural a _ => a

/-- Structural equality of optional grouping sets. -/
def Expr.beqOptSets : Option (List (List Expr)) → Option (List (List Expr)) → Bool
  | none, none => true
  | some as, some bs => Expr.beqSets as bs
  | _, _ => false
termination_by structural a _ => a

/-- Structural equality of calls. -/
def Call.beq : Call → Call → Bool
  | .normal n as, .normal m bs => n == m && Expr.beqList as bs
  | .aggregate n as d, .aggregate m bs e => n == m && Expr.beqList as bs && d == e
  | .cast a t, .cast b u => a.beq b && t == u
  | .extract u a, .extract v b => u.beq v && a.beq b
  | _, _ => false
termination_by structural a _ => a

/-- Structural equality of window calls. -/
def WindowCall.beq : WindowCall → WindowCall → Bool
  | ⟨f, ps, os, fr⟩, ⟨g, qs, ks, gr⟩ =>
      f.beq g && Expr.beqList ps qs && SortKey.beqList os ks && fr == gr
termination_by structural a _ => a

/-- Structural equality of `CASE` arms. -/
def CaseArm.beq : CaseArm → CaseArm → Bool
  | ⟨t, r⟩, ⟨u, s⟩ => t.beq u && r.beq s
termination_by structural a _ => a

/-- Structural equality of lists of `CASE` arms. -/
def CaseArm.beqList : List CaseArm → List CaseArm → Bool
  | [], [] => true
  | a :: as, b :: bs => a.beq b && CaseArm.beqList as bs
  | _, _ => false
termination_by structural a _ => a

/-- Structural equality of sort keys. -/
def SortKey.beq : SortKey → SortKey → Bool
  | ⟨k, o, f, l⟩, ⟨k', o', f', l'⟩ => k.beq k' && o == o' && f == f' && l == l'
termination_by structural a _ => a

/-- Structural equality of lists of sort keys. -/
def SortKey.beqList : List SortKey → List SortKey → Bool
  | [], [] => true
  | a :: as, b :: bs => a.beq b && SortKey.beqList as bs
  | _, _ => false
termination_by structural a _ => a

/-- Structural equality of optional lists of sort keys. -/
def SortKey.beqOptList : Option (List SortKey) → Option (List SortKey) → Bool
  | none, none => true
  | some as, some bs => SortKey.beqList as bs
  | _, _ => false
termination_by structural a _ => a

/-- Structural equality of queries. -/
def Query.beq : Query → Query → Bool
  | .single a, .single b => a.beq b
  | .compound a, .compound b => a.beq b
  | _, _ => false
termination_by structural a _ => a

/-- Structural equality of named queries. -/
def CommonTable.beq : CommonTable → CommonTable → Bool
  | ⟨n, q⟩, ⟨m, r⟩ => n == m && q.beq r
termination_by structural a _ => a

/-- Structural equality of lists of named queries. -/
def CommonTable.beqList : List CommonTable → List CommonTable → Bool
  | [], [] => true
  | a :: as, b :: bs => a.beq b && CommonTable.beqList as bs
  | _, _ => false
termination_by structural a _ => a

/-- Structural equality of optional `WITH` clauses. -/
def CommonTable.beqOptList : Option (List CommonTable) → Option (List CommonTable) → Bool
  | none, none => true
  | some as, some bs => CommonTable.beqList as bs
  | _, _ => false
termination_by structural a _ => a

/-- Structural equality of `SELECT` items. -/
def SelectItem.beq : SelectItem → SelectItem → Bool
  | ⟨v, a⟩, ⟨w, b⟩ => v.beq w && a == b
termination_by structural a _ => a

/-- Structural equality of lists of `SELECT` items. -/
def SelectItem.beqList : List SelectItem → List SelectItem → Bool
  | [], [] => true
  | a :: as, b :: bs => a.beq b && SelectItem.beqList as bs
  | _, _ => false
termination_by structural a _ => a

/-- Structural equality of `SELECT` lists. -/
def SelectClause.beq : SelectClause → SelectClause → Bool
  | ⟨d, is⟩, ⟨e, js⟩ => d == e && SelectItem.beqList is js
termination_by structural a _ => a

/-- Structural equality of table sources. -/
def TableSource.beq : TableSource → TableSource → Bool
  | .table a, .table b => a == b
  | .subquery a, .subquery b => a.beq b
  | _, _ => false
termination_by structural a _ => a

/-- Structural equality of `FROM` items. -/
def FromItem.beq : FromItem → FromItem → Bool
  | ⟨s, a⟩, ⟨t, b⟩ => s.beq t && a == b
termination_by structural a _ => a

/-- Structural equality of lists of `FROM` items. -/
def FromItem.beqList : List FromItem → List FromItem → Bool
  | [], [] => true
  | a :: as, b :: bs => a.beq b && FromItem.beqList as bs
  | _, _ => false
termination_by structural a _ => a

/-- Structural equality of optional `FROM` lists. -/
def FromItem.beqOptList : Option (List FromItem) → Option (List FromItem) → Bool
  | none, none => true
  | some as, some bs => FromItem.beqList as bs
  | _, _ => false
termination_by structural a _ => a

/-- Structural equality of lateral views. -/
def LateralView.beq : LateralView → LateralView → Bool
  | ⟨o, f, n, a⟩, ⟨o', f', n', a'⟩ => o == o' && f.beq f' && n == n' && a == a'
termination_by structural a _ => a

/-- Structural equality of lists of lateral views. -/
def LateralView.beqList : List LateralView → List LateralView → Bool
  | [], [] => true
  | a :: as, b :: bs => a.beq b && LateralView.beqList as bs
  | _, _ => false
termination_by structural a _ => a

/-- Structural equality of join rules. -/
def JoinRule.beq : JoinRule → JoinRule → Bool
  | .on a, .on b => a.beq b
  | .using a, .using b => a.beq b
  | _, _ => false
termination_by structural a _ => a

/-- Structural equality of optional join rules. -/
def JoinRule.beqOpt : Option JoinRule → Option JoinRule → Bool
  | none, none => true
  | some a, some b => a.beq b
  | _, _ => false
termination_by structural a _ => a

/-- Structural equality of joins. -/
def Join.beq : Join → Join → Bool
  | ⟨k, t, r⟩, ⟨k', t', r'⟩ => k == k' && t.beq t' && JoinRule.beqOpt r r'
termination_by structural a _ => a

/-- Structural equality of lists of joins. -/
def Join.beqList : List Join → List Join → Bool
  | [], [] => true
  | a :: as, b :: bs => a.beq b && Join.beqList as bs
  | _, _ => false
termination_by structural a _ => a

/-- Structural equality of `GROUP BY` clauses. -/
def GroupBy.beq : GroupBy → GroupBy → Bool
  | ⟨cs, ss, c, r⟩, ⟨cs', ss', c', r'⟩ =>
      Expr.beqList cs cs' && Expr.beqOptSets ss ss' && c == c' && r == r'
termination_by structural a _ => a

/-- Structural equality of optional `GROUP BY` clauses. -/
def GroupBy.beqOpt : Option GroupBy → Option GroupBy → Bool
  | none, none => true
  | some a, some b => a.beq b
  | _, _ => false
termination_by structural a _ => a

/-- Structural equality of single `SELECT`s. -/
def Select.beq : Select → Select → Bool
  | ⟨w, s, f, lv, j, wh, g, h, o, so, d, c, l⟩, ⟨w', s', f', lv', j', wh', g', h', o', so', d', c', l'⟩ =>
      CommonTable.beqOptList w w' && s.beq s' && FromItem.beqOptList f f' &&
        LateralView.beqList lv lv' && Join.beqList j j' && Expr.beqOpt wh wh' &&
        GroupBy.beqOpt g g' && Expr.beqOpt h h' && SortKey.beqOptList o o' &&
        SortKey.beqOptList so so' && Expr.beqOptList d d' && Expr.beqOptList c c' && l == l'
termination_by structural a _ => a

/-- Structural equality of compound-query branches. -/
def Branch.beq : Branch → Branch → Bool
  | ⟨o, s⟩, ⟨o', s'⟩ => o == o' && s.beq s'
termination_by structural a _ => a

/-- Structural equality of lists of branches. -/
def Branch.beqList : List Branch → List Branch → Bool
  | [], [] => true
  | a :: as, b :: bs => a.beq b && Branch.beqList as bs
  | _, _ => false
termination_by structural a _ => a

/-- Structural equality of compound queries. -/
def Compound.beq : Compound → Compound → Bool
  | ⟨w, h, t⟩, ⟨w', h', t'⟩ => CommonTable.beqOptList w w' && h.beq h' && Branch.beqList t t'
termination_by structural a _ => a
end

instance : BEq Expr := ⟨Expr.beq⟩
instance : BEq Call := ⟨Call.beq⟩
instance : BEq WindowCall := ⟨WindowCall.beq⟩
instance : BEq CaseArm := ⟨CaseArm.beq⟩
instance : BEq SortKey := ⟨SortKey.beq⟩
instance : BEq Query := ⟨Query.beq⟩
instance : BEq CommonTable := ⟨CommonTable.beq⟩
instance : BEq SelectItem := ⟨SelectItem.beq⟩
instance : BEq SelectClause := ⟨SelectClause.beq⟩
instance : BEq TableSource := ⟨TableSource.beq⟩
instance : BEq FromItem := ⟨FromItem.beq⟩
instance : BEq LateralView := ⟨LateralView.beq⟩
instance : BEq JoinRule := ⟨JoinRule.beq⟩
instance : BEq Join := ⟨Join.beq⟩
instance : BEq GroupBy := ⟨GroupBy.beq⟩
instance : BEq Select := ⟨Select.beq⟩
instance : BEq Branch := ⟨Branch.beq⟩
instance : BEq Compound := ⟨Compound.beq⟩

end SqlSyntax
