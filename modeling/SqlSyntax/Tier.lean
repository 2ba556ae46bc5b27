/-!
# Precedence tiers

Operators bind in nine tiers, from atoms, which need no parentheses, to `OR`, which binds
loosest.  An operand is written bare under an operator of its own tier or a looser one; this
is what lets the text read back as the same tree without parentheses.

`rank` numbers the tiers tightest first and `name` gives the words an error message uses.
-/

namespace SqlSyntax

/-- A precedence tier, tightest first. -/
inductive Tier where
  | atom
  | unary
  | compute
  | condition
  | comparison
  | logicalNot
  | logicalAnd
  | logicalXor
  | logicalOr
  deriving DecidableEq, Repr

namespace Tier

/-- The position of a tier, 0 for atoms up to 8 for `OR`. -/
def rank : Tier → Nat
  | .atom => 0
  | .unary => 1
  | .compute => 2
  | .condition => 3
  | .comparison => 4
  | .logicalNot => 5
  | .logicalAnd => 6
  | .logicalXor => 7
  | .logicalOr => 8

/-- How an error message names a tier. -/
def name : Tier → String
  | .atom => "atom"
  | .unary => "unary"
  | .compute => "compute"
  | .condition => "keyword condition"
  | .comparison => "comparison"
  | .logicalNot => "logical NOT"
  | .logicalAnd => "logical AND"
  | .logicalXor => "logical XOR"
  | .logicalOr => "logical OR"

/-- A tier binds at least as tightly as another when its rank is no larger. -/
instance : LE Tier := ⟨fun a b => a.rank ≤ b.rank⟩

instance (a b : Tier) : Decidable (a ≤ b) := inferInstanceAs (Decidable (a.rank ≤ b.rank))

end Tier

end SqlSyntax
