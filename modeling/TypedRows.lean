import TypedRows.Text.Blank
import TypedRows.Text.Numeral
import TypedRows.Text.Lowercase
import TypedRows.Text.Quoted
import TypedRows.Number.Shortest
import TypedRows.Number.Reading
import TypedRows.Timestamp.Text
import TypedRows.Json.Text
import TypedRows.Json.Reading
import TypedRows.Value.Conversion
import TypedRows.Value.Stored
import TypedRows.Captured
import TypedRows.Mapping
import TypedRows.Database.Opening
import TypedRows.Number.Significant
import TypedRows.Engine.Scripted
import TypedRows.Proofs.Expr.OpenMarks
import TypedRows.Proofs.Expr.Language
import TypedRows.Proofs.Expr.Rebinding
import TypedRows.Proofs.Query.Outline
import TypedRows.Proofs.Query.Binding
import TypedRows.Proofs.Query.Clauses
import TypedRows.Proofs.Query.Deletion
import TypedRows.Proofs.Expr.Structure
import TypedRows.Proofs.Transaction.Atomicity
import TypedRows.Proofs.Pool.HandOut
import TypedRows.Proofs.Pool.Demand
import TypedRows.Proofs.Pool.Reclaimed
import TypedRows.Proofs.Pool.Closing
import TypedRows.Proofs.Value.Storage
import TypedRows.Proofs.Value.Access
import TypedRows.Proofs.Value.Doubles
import TypedRows.Proofs.Transaction.Depth
import TypedRows.Proofs.Transaction.Refusals
import TypedRows.Proofs.Client.Leaks
import TypedRows.Proofs.Client.Returning
import TypedRows.Proofs.Transaction.Names
import TypedRows.Proofs.Grammar.Statement
import TypedRows.Proofs.Query.Insertion
import TypedRows.Proofs.Query.KeyRows
import TypedRows.Proofs.Grammar.Numbering
import TypedRows.Proofs.Expr.Affixes
import TypedRows.Proofs.Expr.Membership
import TypedRows.Proofs.Expr.Documents
import TypedRows.Proofs.Sql.Characters
import TypedRows.Proofs.Sql.Window
import TypedRows.Proofs.Query.Affixes
import TypedRows.Proofs.Query.Patterns
import TypedRows.Proofs.Query.Readers
import TypedRows.Proofs.Query.Single
import TypedRows.Proofs.Transaction.Handouts
import TypedRows.Proofs.Pool.Keys
import TypedRows.Proofs.Query.QuotedNames
