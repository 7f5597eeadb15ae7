import EntityMapper.Calendar.Date
import EntityMapper.Calendar.DateTime
import EntityMapper.Config
import EntityMapper.Entity.Attachment
import EntityMapper.Entity.Basic
import EntityMapper.Entity.Coercion
import EntityMapper.Entity.Document
import EntityMapper.Entity.Lifecycle
import EntityMapper.Entity.Record
import EntityMapper.Error
import EntityMapper.Filter.Basic
import EntityMapper.Filter.Document
import EntityMapper.Filter.Where
import EntityMapper.Json.Basic
import EntityMapper.Json.Printer
import EntityMapper.Json.Reader
import EntityMapper.Keyed
import EntityMapper.Migration.Basic
import EntityMapper.Monitor.Context
import EntityMapper.Monitor.Hook
import EntityMapper.Monitor.Statistics
import EntityMapper.Monitor.Trace
import EntityMapper.Number.Binary64
import EntityMapper.Number.Decimal
import EntityMapper.Number.FloatText
import EntityMapper.Number.Integer
import EntityMapper.Number.Power
import EntityMapper.Pattern.Basic
import EntityMapper.Pattern.CaseFold
import EntityMapper.Pattern.Letters
import EntityMapper.Pattern.Numerals
import EntityMapper.Pattern.Reader
import EntityMapper.Plan.Assembly
import EntityMapper.Plan.Basic
import EntityMapper.Plan.EntityQuery
import EntityMapper.Plan.Label
import EntityMapper.Plan.Resolution
import EntityMapper.Proofs.Blocks
import EntityMapper.Proofs.Calendar.Reading
import EntityMapper.Proofs.Entity.Attachment
import EntityMapper.Proofs.Entity.Descent
import EntityMapper.Proofs.Entity.Document
import EntityMapper.Proofs.Entity.Equality
import EntityMapper.Proofs.Entity.Hydration
import EntityMapper.Proofs.Entity.Reattachment
import EntityMapper.Proofs.Entity.Settled
import EntityMapper.Proofs.Filter.Branch
import EntityMapper.Proofs.Filter.Columns
import EntityMapper.Proofs.Filter.Complement
import EntityMapper.Proofs.Filter.Condition
import EntityMapper.Proofs.Filter.Document
import EntityMapper.Proofs.Filter.Legible
import EntityMapper.Proofs.Filter.Meaning
import EntityMapper.Proofs.Filter.Operands
import EntityMapper.Proofs.Filter.Outline
import EntityMapper.Proofs.Filter.Preservation
import EntityMapper.Proofs.Filter.Reading
import EntityMapper.Proofs.Filter.Rearrangement
import EntityMapper.Proofs.Filter.Rereading
import EntityMapper.Proofs.Migration.Accounting
import EntityMapper.Proofs.Migration.Course
import EntityMapper.Proofs.Migration.History
import EntityMapper.Proofs.Migration.Noting
import EntityMapper.Proofs.Migration.Steps
import EntityMapper.Proofs.Monitor.Telling
import EntityMapper.Proofs.Monitor.Truncation
import EntityMapper.Proofs.Number.Binary64
import EntityMapper.Proofs.Number.Decimal
import EntityMapper.Proofs.Pattern.Matching
import EntityMapper.Proofs.Plan.Answering
import EntityMapper.Proofs.Plan.Branches
import EntityMapper.Proofs.Plan.Choices
import EntityMapper.Proofs.Plan.Classes
import EntityMapper.Proofs.Plan.Drawing
import EntityMapper.Proofs.Plan.EntityQuery
import EntityMapper.Proofs.Plan.First
import EntityMapper.Proofs.Plan.Folding
import EntityMapper.Proofs.Plan.Following
import EntityMapper.Proofs.Plan.Gathering
import EntityMapper.Proofs.Plan.Heads
import EntityMapper.Proofs.Plan.Holding
import EntityMapper.Proofs.Plan.Joining
import EntityMapper.Proofs.Plan.Label
import EntityMapper.Proofs.Plan.Materialize
import EntityMapper.Proofs.Plan.Merging
import EntityMapper.Proofs.Plan.Naming
import EntityMapper.Proofs.Plan.Ordering
import EntityMapper.Proofs.Plan.Populating
import EntityMapper.Proofs.Plan.Population
import EntityMapper.Proofs.Plan.Preorder
import EntityMapper.Proofs.Plan.Roots
import EntityMapper.Proofs.Plan.Scope
import EntityMapper.Proofs.Plan.Showing
import EntityMapper.Proofs.Plan.Sorting
import EntityMapper.Proofs.Plan.Taking
import EntityMapper.Proofs.Plan.Veil
import EntityMapper.Proofs.Schema.Acceptance
import EntityMapper.Proofs.Schema.Junction
import EntityMapper.Proofs.Session.Calls
import EntityMapper.Proofs.Session.Commands
import EntityMapper.Proofs.Session.Dispatch
import EntityMapper.Proofs.Session.Failure
import EntityMapper.Proofs.Session.Journal
import EntityMapper.Proofs.Session.Lifecycle
import EntityMapper.Proofs.Session.Nullability
import EntityMapper.Proofs.Session.Refusal
import EntityMapper.Proofs.Session.Removal
import EntityMapper.Proofs.Session.Reporting
import EntityMapper.Proofs.Session.Selection
import EntityMapper.Proofs.Session.Storing
import EntityMapper.Proofs.Statement.Assignment
import EntityMapper.Proofs.Statement.Binding
import EntityMapper.Proofs.Statement.Declaration
import EntityMapper.Proofs.Statement.Draft
import EntityMapper.Proofs.Statement.Form
import EntityMapper.Proofs.Statement.Fragment
import EntityMapper.Proofs.Statement.Legible
import EntityMapper.Proofs.Statement.Outline
import EntityMapper.Proofs.Statement.Paging
import EntityMapper.Proofs.Statement.Placeholder
import EntityMapper.Proofs.Statement.Request
import EntityMapper.Proofs.Statement.Structure
import EntityMapper.Proofs.Statement.Veil
import EntityMapper.Proofs.Store.Population
import EntityMapper.Proofs.Store.Sorting
import EntityMapper.Proofs.Text.Digits
import EntityMapper.Proofs.Validation.Coercion
import EntityMapper.Proofs.Validation.Email
import EntityMapper.Proofs.Value.Reading
import EntityMapper.Reference.Column
import EntityMapper.Reference.Name
import EntityMapper.Schema.Association
import EntityMapper.Schema.Column
import EntityMapper.Schema.DataType
import EntityMapper.Schema.EntitySchema
import EntityMapper.Schema.Registry
import EntityMapper.Schema.Supply
import EntityMapper.Session.Basic
import EntityMapper.Session.Entities
import EntityMapper.Session.Instance
import EntityMapper.Session.Rows
import EntityMapper.Statement.Clause
import EntityMapper.Statement.Fragment
import EntityMapper.Statement.Query
import EntityMapper.Statement.Table
import EntityMapper.Text.Blank
import EntityMapper.Text.Bytes
import EntityMapper.Text.Concealed
import EntityMapper.Text.Digits
import EntityMapper.Text.Quoted
import EntityMapper.Text.Ranges
import EntityMapper.Text.Word
import EntityMapper.Url.Address
import EntityMapper.Url.Admitted
import EntityMapper.Url.Basic
import EntityMapper.Url.Direction
import EntityMapper.Url.Domain
import EntityMapper.Url.Folding
import EntityMapper.Url.Joining
import EntityMapper.Url.Punycode
import EntityMapper.Validation.Check
import EntityMapper.Validation.Email
import EntityMapper.Validation.Reason
import EntityMapper.Value.Basic
import EntityMapper.Value.Document
import EntityMapper.Value.Extraction
import EntityMapper.Value.Printer
