import AnnotatedSql.Catalog
import AnnotatedSql.Catalog.Define
import AnnotatedSql.Catalog.Fetch
import AnnotatedSql.Cli.Arguments
import AnnotatedSql.Cli.Config
import AnnotatedSql.Cli.Help
import AnnotatedSql.Cli.Report
import AnnotatedSql.Cli.Run
import AnnotatedSql.Compile
import AnnotatedSql.Compile.Check
import AnnotatedSql.Compile.Numbering
import AnnotatedSql.Compile.Output
import AnnotatedSql.Compile.Reference
import AnnotatedSql.Compile.Resolve
import AnnotatedSql.Compile.Scope
import AnnotatedSql.Compile.View
import AnnotatedSql.Compile.Wildcard
import AnnotatedSql.Diagnostic
import AnnotatedSql.Dialect
import AnnotatedSql.Directive
import AnnotatedSql.Error
import AnnotatedSql.FieldType
import AnnotatedSql.Files
import AnnotatedSql.Files.Glob
import AnnotatedSql.Files.Tree
import AnnotatedSql.Generate.Field
import AnnotatedSql.Generate.Helper
import AnnotatedSql.Generate.Naming
import AnnotatedSql.Json
import AnnotatedSql.Json.Record
import AnnotatedSql.Keyed
import AnnotatedSql.Main
import AnnotatedSql.Placeholder
import AnnotatedSql.QualifiedName
import AnnotatedSql.Query
import AnnotatedSql.Source.Comment
import AnnotatedSql.Source.Edit
import AnnotatedSql.Source.Piece
import AnnotatedSql.Source.Split
import AnnotatedSql.Sql.Grammar
import AnnotatedSql.Sql.Keyword
import AnnotatedSql.Sql.Lexer
import AnnotatedSql.Sql.Parse
import AnnotatedSql.Sql.Parse.Basic
import AnnotatedSql.Sql.Parse.Call
import AnnotatedSql.Sql.Parse.Change
import AnnotatedSql.Sql.Parse.Column
import AnnotatedSql.Sql.Parse.Command
import AnnotatedSql.Sql.Parse.Definition
import AnnotatedSql.Sql.Parse.Expr
import AnnotatedSql.Sql.Parse.Query
import AnnotatedSql.Sql.Parse.Strength
import AnnotatedSql.Sql.Parse.TypeName
import AnnotatedSql.Sql.Token
import AnnotatedSql.Sql.Tree
import AnnotatedSql.Sql.Walk
import AnnotatedSql.SqlType
import AnnotatedSql.Text.Blank
import AnnotatedSql.Text.Bytes
import AnnotatedSql.Text.Case
import AnnotatedSql.Text.Case.Table
import AnnotatedSql.Text.Letter
import AnnotatedSql.Text.Number
import AnnotatedSql.Text.Position
import AnnotatedSql.Text.Quoted
import AnnotatedSql.Text.Ranges
import AnnotatedSql.Text.Visible
import AnnotatedSql.Toml
import AnnotatedSql.Toml.Document
import AnnotatedSql.Toml.Lexeme
import AnnotatedSql.Toml.Scalar
import AnnotatedSql.Proofs.Compile.Boundary
import AnnotatedSql.Proofs.Compile.OwnPlaceholder
import AnnotatedSql.Proofs.Sql.Enclosed
import AnnotatedSql.Proofs.Sql.Scan
import AnnotatedSql.Proofs.Source.Comment
import AnnotatedSql.Proofs.Compile.NamedText
import AnnotatedSql.Proofs.Compile.Accounted
import AnnotatedSql.Proofs.Compile.CommonTables
import AnnotatedSql.Proofs.Compile.SchemaGrowth
import AnnotatedSql.Proofs.Source.Ends
import AnnotatedSql.Proofs.Catalog.WellFormed
import AnnotatedSql.Proofs.Compile.OuterScope
import AnnotatedSql.Proofs.Catalog.RenameClash
import AnnotatedSql.Proofs.Compile.JoinNullability
import AnnotatedSql.Proofs.Compile.WildcardNames
import AnnotatedSql.Proofs.Compile.ExprNullability
import AnnotatedSql.Proofs.Compile.WildcardGrowth
import AnnotatedSql.Proofs.Generate.Registry
import AnnotatedSql.Proofs.Source.Substitution
import AnnotatedSql.Proofs.Source.Coverage
import AnnotatedSql.Proofs.Compile.Located
import AnnotatedSql.Proofs.Compile.Ordinals
import AnnotatedSql.Proofs.Compile.Unique
import AnnotatedSql.Proofs.Directive.RoundTrip
import AnnotatedSql.Proofs.FieldType.Spelling
import AnnotatedSql.Proofs.Text.LineColumn
import AnnotatedSql.Proofs.Catalog.NamedTable
import AnnotatedSql.Proofs.Compile.AssignedColumn
import AnnotatedSql.Proofs.Compile.InlineEnum
import AnnotatedSql.Proofs.Catalog.EnumLabels
import AnnotatedSql.Proofs.Sql.Identifier
import AnnotatedSql.Proofs.Sql.SelectColumn
import AnnotatedSql.Proofs.Compile.RowSources
import AnnotatedSql.Proofs.Compile.InsertRow
import AnnotatedSql.Proofs.Catalog.AlterSequence
import AnnotatedSql.Proofs.Generate.FieldNames
import AnnotatedSql.Proofs.Compile.RecordedOnce
import AnnotatedSql.Proofs.Catalog.RenameColumn
