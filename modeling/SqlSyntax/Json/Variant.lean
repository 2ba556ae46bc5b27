import SqlSyntax.Json.Value

/-!
# Variant names

The names under which the enumerations are written in the interchange form: the keyword
enumerations, the condition keywords, the index kinds and the dialects.  The keyword
enumerations list their values in the order of their keyword catalog.
-/

namespace SqlSyntax

/-- The names of insert modes. -/
instance : VariantNames InsertMode where
  all := Keyword.all
  name
    | .into => "InsertInto"
    | .ignoreInto => "InsertIgnoreInto"
    | .overwrite => "InsertOverwrite"
    | .replaceInto => "ReplaceInto"

/-- The names of the join kinds. -/
instance : VariantNames JoinKind where
  all := Keyword.all
  name
    | .plain => "Join"
    | .inner => "InnerJoin"
    | .left => "LeftJoin"
    | .leftOuter => "LeftOuterJoin"
    | .right => "RightJoin"
    | .rightOuter => "RightOuterJoin"
    | .full => "FullJoin"
    | .fullOuter => "FullOuterJoin"
    | .cross => "CrossJoin"
    | .leftSemi => "LeftSemiJoin"

/-- The names of the sort orders. -/
instance : VariantNames SortOrder where
  all := Keyword.all
  name
    | .asc => "Asc"
    | .desc => "Desc"

/-- The names of the set operators. -/
instance : VariantNames SetOperator where
  all := Keyword.all
  name
    | .union => "Union"
    | .unionAll => "UnionAll"
    | .unionDistinct => "UnionDistinct"
    | .except => "Except"
    | .intersect => "Intersect"

/-- The names of the comparison operators. -/
instance : VariantNames CompareOp where
  all := Keyword.all
  name
    | .eq => "Equal"
    | .nullSafeEq => "NullSafeEqual"
    | .ne => "NotEqual"
    | .ltGt => "LessOrGreater"
    | .lt => "Less"
    | .le => "LessOrEqual"
    | .gt => "Greater"
    | .ge => "GreaterOrEqual"

/-- The names of the arithmetic and bit operators. -/
instance : VariantNames ComputeOp where
  all := Keyword.all
  name
    | .plus => "Plus"
    | .minus => "Minus"
    | .times => "Multiply"
    | .divide => "Divide"
    | .mod => "Mod"
    | .div => "Div"
    | .bitAnd => "BitAnd"
    | .bitOr => "BitOr"
    | .bitXor => "BitXor"
    | .shiftLeft => "ShiftLeft"
    | .shiftRight => "ShiftRight"
    | .bitNot => "BitNot"
    | .concat => "Concat"

/-- The names of the logical operators. -/
instance : VariantNames LogicalOp where
  all := Keyword.all
  name
    | .and => "And"
    | .or => "Or"
    | .not => "Not"
    | .xor => "Xor"

/-- The names of the cast types. -/
instance : VariantNames DataType where
  all := Keyword.all
  name
    | .binary => "Binary"
    | .char => "Char"
    | .date => "Date"
    | .datetime => "Datetime"
    | .decimal => "Decimal"
    | .double => "Double"
    | .float => "Float"
    | .json => "Json"
    | .nchar => "Nchar"
    | .real => "Real"
    | .signed => "Signed"
    | .time => "Time"
    | .timestamp => "Timestamp"
    | .unsigned => "Unsigned"
    | .year => "Year"
    | .int => "Int"
    | .integer => "Integer"
    | .bigint => "Bigint"
    | .boolean => "Boolean"
    | .string => "String"
    | .varchar => "Varchar"

/-- The names of the frame bound directions. -/
instance : VariantNames BoundDirection where
  all := Keyword.all
  name
    | .preceding => "Preceding"
    | .following => "Following"
    | .currentRow => "CurrentRow"

/-- The names of the generated column storage. -/
instance : VariantNames GeneratedStorage where
  all := Keyword.all
  name
    | .virtual => "Virtual"
    | .stored => "Stored"

/-- The names of the condition keywords. -/
instance : VariantNames ConditionKeyword where
  all := [.is, .inList, .like, .rlike, .regexp]
  name
    | .is => "Is"
    | .inList => "In"
    | .like => "Like"
    | .rlike => "Rlike"
    | .regexp => "Regexp"

/-- The names of the index kinds. -/
instance : VariantNames IndexKind where
  all := [.primary, .unique, .normal, .fulltext]
  name
    | .primary => "Primary"
    | .unique => "Unique"
    | .normal => "Normal"
    | .fulltext => "Fulltext"

/-- The names of the dialects. -/
instance : VariantNames Dialect where
  all := Dialect.all
  name
    | .default => "Default"
    | .mysql => "MySql"
    | .hive => "Hive"
    | .db2 => "Db2"
    | .sqlServer => "SqlServer"

end SqlSyntax
