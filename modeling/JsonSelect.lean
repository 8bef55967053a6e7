import JsonSelect.DateTime.Reading
import JsonSelect.Json.Numeral
import JsonSelect.KeyCase
import JsonSelect.Proofs.Sql.Numeral
import JsonSelect.Proofs.Where.Induction
import JsonSelect.Statement
import JsonSelect.Proofs.Sql.Scanning
import JsonSelect.Proofs.Where.Proper
import JsonSelect.Proofs.Where.Tokens
import JsonSelect.Proofs.Where.Texts
import JsonSelect.Proofs.Where.Shape
import JsonSelect.Proofs.Sql.Balance
import JsonSelect.Proofs.Where.Grammar
import JsonSelect.Proofs.Expression
import JsonSelect.Proofs.Truth
import JsonSelect.Proofs.Sql.Line
import JsonSelect.Proofs.Sql.Reading
import JsonSelect.Proofs.Where.Reading
import JsonSelect.Proofs.Where.Grouping
import JsonSelect.Proofs.Where.Meaning
import JsonSelect.Proofs.Where.Misgrouped
import JsonSelect.Proofs.Where.Conditions
import JsonSelect.Proofs.Text.Integer
import JsonSelect.Proofs.Page
import JsonSelect.Proofs.Statement.Assembly
import JsonSelect.Proofs.Statement.Paged
import JsonSelect.Proofs.Outcome
import JsonSelect.Proofs.Where.Leaves
import JsonSelect.Proofs.Where.Accounts
import JsonSelect.Proofs.Where.Language
import JsonSelect.Proofs.Where.Acceptance
import JsonSelect.Proofs.Json.Fields
import JsonSelect.Proofs.Where.Encoding
import JsonSelect.Proofs.Where.Faults
import JsonSelect.Proofs.Decision
import JsonSelect.Proofs.Identifier
import JsonSelect.Proofs.Statement.Admission
import JsonSelect.Proofs.Statement.Answers
import JsonSelect.Proofs.Page.Tiling
import JsonSelect.Proofs.Query.Storage
import JsonSelect.Proofs.Where.Events
import JsonSelect.Proofs.Statement.Logging
import JsonSelect.Proofs.KeyCase.Key
import JsonSelect.Proofs.KeyCase.Payload
import JsonSelect.Proofs.Pattern
import JsonSelect.Proofs.Statement.Phrases
import JsonSelect.Proofs.Where.Vacuous
import JsonSelect.Proofs.Sql.Literal
import JsonSelect.Proofs.Identifier.Grammar
import JsonSelect.Proofs.Pattern.Literal
import JsonSelect.Proofs.Limit.Clause
import JsonSelect.Proofs.Json.Integer
import JsonSelect.Proofs.KeyCase.Inverse
import JsonSelect.Proofs.KeyCase.Depth
import JsonSelect.Proofs.Where.Spelling
import JsonSelect.Proofs.Sql.Names
import JsonSelect.Proofs.Where.Policies
import JsonSelect.Proofs.KeyCase.Merging
import JsonSelect.Proofs.Json.Path
import JsonSelect.Proofs.KeyCase.Frame
import JsonSelect.Proofs.Text.Case
import JsonSelect.Proofs.Where.FieldNames
import JsonSelect.Proofs.DateTime
import JsonSelect.Proofs.Logger
import JsonSelect.Proofs.Text.Integer.Scanning
