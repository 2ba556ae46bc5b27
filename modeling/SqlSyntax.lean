import SqlSyntax.Text.Blank
import SqlSyntax.Dialect
import SqlSyntax.Keyword
import SqlSyntax.Tier
import SqlSyntax.Error
import SqlSyntax.Emission
import SqlSyntax.Name
import SqlSyntax.Literal
import SqlSyntax.Tree
import SqlSyntax.Tree.Info
import SqlSyntax.Tree.Walk
import SqlSyntax.Render.Element
import SqlSyntax.Render.Tree
import SqlSyntax.Statement
import SqlSyntax.Render.Statement
import SqlSyntax.Render.Node
import SqlSyntax.Tree.Equality
import SqlSyntax.Text.Upper
import SqlSyntax.Mutation
import SqlSyntax.Writer
import SqlSyntax.Render.Program
import SqlSyntax.Json.Value
import SqlSyntax.Json.Variant
import SqlSyntax.Json.Decode
import SqlSyntax.Json.Encode
import SqlSyntax.Json.Statement
import SqlSyntax.Json.Text
import SqlSyntax.Proofs.Emission
import SqlSyntax.Proofs.StackDepth
import SqlSyntax.Proofs.Checks
import SqlSyntax.Proofs.Grouping
import SqlSyntax.Proofs.DepthLimit
import SqlSyntax.Proofs.SeparatedList
import SqlSyntax.Proofs.Writer
import SqlSyntax.Proofs.Program
import SqlSyntax.Proofs.WithClause
import SqlSyntax.Proofs.Unwritten
import SqlSyntax.Proofs.Unwritten.Render
import SqlSyntax.Proofs.ColumnTypes
import SqlSyntax.Proofs.TypeNames
import SqlSyntax.Proofs.LiteralValue
import SqlSyntax.Proofs.Budget
import SqlSyntax.Proofs.Agreement
import SqlSyntax.Proofs.Agreement.Render
import SqlSyntax.Proofs.Options
