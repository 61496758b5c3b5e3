import DataGrid.Action
import DataGrid.Action.Address
import DataGrid.Action.Click
import DataGrid.Action.Difference
import DataGrid.Action.Render
import DataGrid.Column
import DataGrid.Column.Inference
import DataGrid.Column.Typing
import DataGrid.Configuration
import DataGrid.Configuration.Environment
import DataGrid.Configuration.File
import DataGrid.Configuration.Load
import DataGrid.Csv
import DataGrid.Database
import DataGrid.Database.Command
import DataGrid.Database.Expression
import DataGrid.Database.Grammar
import DataGrid.Database.Lexeme
import DataGrid.Database.Moment
import DataGrid.Database.Real
import DataGrid.Database.Storage
import DataGrid.Database.Value
import DataGrid.Decimal.Double
import DataGrid.Decimal.Extended
import DataGrid.Decimal.Integer
import DataGrid.Decimal.Numeral
import DataGrid.Decimal.Shortest
import DataGrid.Demo
import DataGrid.Demo.People
import DataGrid.Dispatch
import DataGrid.Engine.Program
import DataGrid.Engine.Script
import DataGrid.Envelope
import DataGrid.Error
import DataGrid.Filter
import DataGrid.Filter.Compile
import DataGrid.Filter.Number
import DataGrid.Form
import DataGrid.Form.Markup
import DataGrid.Form.Store
import DataGrid.Json.Reader
import DataGrid.Json.Token
import DataGrid.Json.Value
import DataGrid.Json.Writer
import DataGrid.Paging
import DataGrid.Proofs.Action.Payload
import DataGrid.Proofs.Action.Equality
import DataGrid.Proofs.Engine.Run
import DataGrid.Proofs.Engine.Writes
import DataGrid.Proofs.Filter.Compile
import DataGrid.Proofs.Filter.Shape
import DataGrid.Proofs.Filter.Styles
import DataGrid.Proofs.Form.Lookup
import DataGrid.Proofs.Form.Save
import DataGrid.Proofs.Form.Store
import DataGrid.Proofs.Json.Equality
import DataGrid.Proofs.Json.Fields
import DataGrid.Proofs.Outcome
import DataGrid.Proofs.Source.Lookup
import DataGrid.Proofs.Sql.Erasure
import DataGrid.Proofs.Sql.Placeholders
import DataGrid.Request
import DataGrid.Row
import DataGrid.Row.Cells
import DataGrid.Selection
import DataGrid.Selection.Memory
import DataGrid.Selection.Service
import DataGrid.Selection.Stored
import DataGrid.Sorting
import DataGrid.Source
import DataGrid.Source.Pattern
import DataGrid.Source.Resolve
import DataGrid.Source.Statements
import DataGrid.Sql.Dialect
import DataGrid.Sql.Sink
import DataGrid.Sql.Like
import DataGrid.Sql.Params
import DataGrid.Sql.Value
import DataGrid.Table
import DataGrid.Table.Config
import DataGrid.Text.Ascii
import DataGrid.Text.Blank
import DataGrid.Text.Markup
import DataGrid.Text.Percent
import DataGrid.Time.Calendar
import DataGrid.Time.Format
import DataGrid.Time.Instant
import DataGrid.Time.Zone
import DataGrid.Proofs.Dispatch.Writes
import DataGrid.Proofs.Selection.Calls
import DataGrid.Proofs.Sql.Like
import DataGrid.Proofs.Filter.TextFilters
import DataGrid.Proofs.Filter.Groups
import DataGrid.Proofs.Filter.Search
import DataGrid.Proofs.Source.Scan
import DataGrid.Proofs.Source.Words
import DataGrid.Proofs.Source.SelectList
import DataGrid.Proofs.Source.Resolve
import DataGrid.Proofs.Row.Cells
import DataGrid.Proofs.Dispatch.Deletes
import DataGrid.Proofs.Engine.Handler
import DataGrid.Proofs.Dispatch.SelectAll
import DataGrid.Proofs.Decimal.Exact
import DataGrid.Proofs.Time.Calendar
import DataGrid.Proofs.Database.Moment
import DataGrid.Proofs.Time.Digits
import DataGrid.Proofs.Sql.DateFormat
import DataGrid.Proofs.Sql.Timestamp
import DataGrid.Proofs.Csv
import DataGrid.Proofs.Json.TextLists
import DataGrid.Proofs.Time.Reading
import DataGrid.Proofs.Selection.Stores
import DataGrid.Proofs.Dispatch.Restriction
import DataGrid.Proofs.Sql.Marks
import DataGrid.Proofs.Source.Marks
import DataGrid.Proofs.Filter.Exact
import DataGrid.Proofs.Action.Overlay
import DataGrid.Proofs.Form.Statements
import DataGrid.Proofs.Form.Written
import DataGrid.Proofs.Form.Edit
import DataGrid.Proofs.Form.Agreement
import DataGrid.Proofs.Request.Order
import DataGrid.Proofs.Dispatch.Order
import DataGrid.Proofs.Source.Bound
import DataGrid.Proofs.Form.Selector
import DataGrid.Proofs.Filter.Clauses
import DataGrid.Proofs.Filter.Conjunction
import DataGrid.Proofs.Filter.Faults
import DataGrid.Proofs.Filter.Influence
import DataGrid.Proofs.Row.Keys
import DataGrid.Proofs.Source.TableList
import DataGrid.Proofs.Filter.Numbers
import DataGrid.Proofs.Decimal.Integer
import DataGrid.Proofs.Source.Tokens
import DataGrid.Proofs.Decimal.Rounding
import DataGrid.Proofs.Decimal.Shortest
import DataGrid.Proofs.Decimal.Pointless
import DataGrid.Proofs.Json.Points
import DataGrid.Proofs.Paging
import DataGrid.Proofs.Table.Consistent
import DataGrid.Proofs.Column.Inference
import DataGrid.Proofs.Dispatch.Download
import DataGrid.Proofs.Text.Percent
import DataGrid.Proofs.Text.Trim
import DataGrid.Proofs.Action.Address
import DataGrid.Proofs.Form.Markup
import DataGrid.Proofs.Decimal.Grammar
import DataGrid.Proofs.Form.Validation
import DataGrid.Proofs.Table.Config
import DataGrid.Proofs.Row.Ids
import DataGrid.Proofs.Sql.Appending
import DataGrid.Proofs.Decimal.Value
import DataGrid.Proofs.Decimal.Leading
import DataGrid.Proofs.Source.Leftmost
