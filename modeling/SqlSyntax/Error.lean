import SqlSyntax.Dialect
import SqlSyntax.Tier

/-!
# Errors

The causes for which rendering, reading a literal, rewriting column types or reading a dialect
name can fail, and the one function, `SqlError.message`, that words them.
-/

namespace SqlSyntax

/-- Why an operation of the library failed. -/
inductive SqlError where
  /-- The dialect lacks a keyword or a construct, named by its spelling. -/
  | unsupportedFeature (feature : String) (dialect : Dialect)
  /-- The dialect cannot write a kind of statement at all. -/
  | unrenderable (statement : String) (dialect : Dialect)
  /-- A literal's text is no integer. -/
  | notAnInteger (literal : String)
  /-- A type mapping has no entry for a column type, named in upper case. -/
  | unmappedType (typeName : String)
  /-- An operand binds more loosely than the operator it stands under. -/
  | looseOperand (operand operator : Tier)
  /-- Expressions and queries nest more deeply than the limit allows. -/
  | tooDeep (limit : Nat)
  /-- A dialect name that names no dialect. -/
  | unknownDialect
  deriving DecidableEq, Repr

/-- The text of an error. -/
def SqlError.message : SqlError → String
  | .unsupportedFeature feature d => feature ++ " is not supported by the " ++ d.name ++ " dialect"
  | .unrenderable statement d => statement ++ " cannot be rendered for the " ++ d.name ++ " dialect"
  | .notAnInteger literal => "Literal " ++ literal ++ " cannot be converted to integer"
  | .unmappedType typeName => "Type mapping has no entry for column type " ++ typeName
  | .looseOperand operand operator =>
      "A " ++ operand.name ++ " operand cannot appear under a " ++ operator.name ++ " operator"
  | .tooDeep limit => "Syntax tree nesting exceeds the limit of " ++ toString limit ++ " levels"
  | .unknownDialect => "Unknown SQL dialect name"

end SqlSyntax
