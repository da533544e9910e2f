import ChatAssistant.Arithmetic.Divisor
import ChatAssistant.Arithmetic.Evaluation
import ChatAssistant.Arithmetic.Expression
import ChatAssistant.Arithmetic.Reading
import ChatAssistant.Backend.Answer
import ChatAssistant.Backend.Chunk
import ChatAssistant.Backend.Endpoint
import ChatAssistant.Backend.Exchange
import ChatAssistant.Backend.Head
import ChatAssistant.Backend.InstantAnswer
import ChatAssistant.Backend.MediaType
import ChatAssistant.Backend.Query
import ChatAssistant.Backend.Request
import ChatAssistant.Backend.Response
import ChatAssistant.Backend.Url
import ChatAssistant.Backend.Url.Site
import ChatAssistant.Calculator.Question
import ChatAssistant.Calculator.Service
import ChatAssistant.Calculator.Solution
import ChatAssistant.Conversation
import ChatAssistant.Decimal.Basic
import ChatAssistant.Decimal.FloatText
import ChatAssistant.Decimal.Shortest
import ChatAssistant.Environment.Assignment
import ChatAssistant.Environment.Basic
import ChatAssistant.Environment.Defaults
import ChatAssistant.Environment.Line
import ChatAssistant.Environment.Value
import ChatAssistant.FileEntry
import ChatAssistant.Json.Document
import ChatAssistant.Json.Record
import ChatAssistant.Json.Value
import ChatAssistant.Message
import ChatAssistant.Page.Chat
import ChatAssistant.Page.Documentation
import ChatAssistant.Page.Gesture
import ChatAssistant.Page.History
import ChatAssistant.Page.Node
import ChatAssistant.Page.Pricing
import ChatAssistant.Page.Profile
import ChatAssistant.Page.Settings
import ChatAssistant.Page.Setup
import ChatAssistant.Page.Shell
import ChatAssistant.Pattern
import ChatAssistant.Preferences
import ChatAssistant.Preferences.Storage
import ChatAssistant.Proofs.Conversation.Ordering
import ChatAssistant.Reply
import ChatAssistant.Route
import ChatAssistant.Section
import ChatAssistant.Session
import ChatAssistant.Session.View
import ChatAssistant.Settings
import ChatAssistant.Startup
import ChatAssistant.Text.Alphanumeric
import ChatAssistant.Text.Blank
import ChatAssistant.Text.CaseFolding
import ChatAssistant.Text.Charset.Big5
import ChatAssistant.Text.Charset.Chinese
import ChatAssistant.Text.Charset.CodeTable
import ChatAssistant.Text.Charset.DoubleByte
import ChatAssistant.Text.Charset.Fault
import ChatAssistant.Text.Charset.Japanese
import ChatAssistant.Text.Charset.Korean
import ChatAssistant.Text.Charset.Label
import ChatAssistant.Text.Charset.Rows.Big5
import ChatAssistant.Text.Charset.Rows.Chinese
import ChatAssistant.Text.Charset.Rows.Jis0208
import ChatAssistant.Text.Charset.Rows.Jis0212
import ChatAssistant.Text.Charset.Rows.Korean
import ChatAssistant.Text.Charset.SingleByte
import ChatAssistant.Text.Charset.Utf16
import ChatAssistant.Text.CodePoints
import ChatAssistant.Text.DecimalDigit
import ChatAssistant.Text.FormEncoding
import ChatAssistant.Text.Hexadecimal
import ChatAssistant.Text.Lowercase
import ChatAssistant.Text.Lowercase.Context
import ChatAssistant.Text.Lowercase.Mapping
import ChatAssistant.Text.Parts
import ChatAssistant.Text.PercentEncoding
import ChatAssistant.Text.Quoted
import ChatAssistant.Text.Quoted.Escaped
import ChatAssistant.Text.Utf8
import ChatAssistant.Text.WordCharacter
import ChatAssistant.Theme
import ChatAssistant.Timestamp.Basic
import ChatAssistant.Timestamp.Calendar
import ChatAssistant.Timestamp.Notation
import ChatAssistant.Proofs.Dialogue
import ChatAssistant.Proofs.Exchange.Sequence
import ChatAssistant.Proofs.Session.Tasks
import ChatAssistant.Proofs.InstantAnswer.Listing
import ChatAssistant.Proofs.InstantAnswer.NothingFound
import ChatAssistant.Proofs.Preferences.Keeping
import ChatAssistant.Proofs.Pattern.Language
import ChatAssistant.Proofs.Calculator.Forms
import ChatAssistant.Proofs.Calculator.Recognition
import ChatAssistant.Proofs.Text.Lowercase
import ChatAssistant.Proofs.Route.NamedForms
import ChatAssistant.Proofs.Decimal.Digits
import ChatAssistant.Proofs.Json.Strings
import ChatAssistant.Proofs.Json.Compact
import ChatAssistant.Proofs.Timestamp.Notation
import ChatAssistant.Proofs.Timestamp.DayNumber
import ChatAssistant.Proofs.Timestamp.Parts
import ChatAssistant.Proofs.Timestamp.Clock
import ChatAssistant.Proofs.Json.Fields
import ChatAssistant.Proofs.Message.Notation
import ChatAssistant.Proofs.Exchange.Sources
import ChatAssistant.Proofs.Text.Blank
import ChatAssistant.Proofs.Route.Grounds
import ChatAssistant.Proofs.Decimal.Shown
import ChatAssistant.Proofs.Calculator.Answer
import ChatAssistant.Proofs.Arithmetic.Passes
import ChatAssistant.Proofs.Arithmetic.Conventional
import ChatAssistant.Proofs.Arithmetic.Reading
import ChatAssistant.Proofs.Arithmetic.Exact
import ChatAssistant.Proofs.Environment.Value
import ChatAssistant.Proofs.Environment.Assignments
import ChatAssistant.Proofs.Environment.Lines
import ChatAssistant.Proofs.Environment.Variables
import ChatAssistant.Proofs.Startup.Loading
import ChatAssistant.Proofs.Settings.Reading
import ChatAssistant.Proofs.Arithmetic.Divisions
import ChatAssistant.Proofs.Arithmetic.DivisorText
import ChatAssistant.Proofs.Arithmetic.DivisorOperand
import ChatAssistant.Proofs.Calculator.DivisionByZero
import ChatAssistant.Proofs.Text.Cyrillic
import ChatAssistant.Proofs.Calculator.Cleaning
import ChatAssistant.Proofs.Calculator.Words
import ChatAssistant.Proofs.Calculator.ShownExpression
import ChatAssistant.Proofs.Pattern.FirstChoice
import ChatAssistant.Proofs.Calculator.Wording
import ChatAssistant.Proofs.Calculator.WordingOperands
import ChatAssistant.Proofs.Calculator.WordingWords
import ChatAssistant.Proofs.Calculator.WordingAnswer
import ChatAssistant.Proofs.Session.Submission
import ChatAssistant.Proofs.Text.LetterCase
import ChatAssistant.Proofs.Route.LetterCase
import ChatAssistant.Proofs.Decimal.Interval
import ChatAssistant.Proofs.Decimal.Plain
import ChatAssistant.Proofs.Decimal.Mantissa
import ChatAssistant.Proofs.Decimal.Rounding
import ChatAssistant.Proofs.Decimal.Scientific
import ChatAssistant.Proofs.Decimal.Packing
import ChatAssistant.Proofs.Decimal.ReadBack
import ChatAssistant.Proofs.Decimal.Whole
import ChatAssistant.Proofs.Reply.Results
import ChatAssistant.Proofs.Endpoint.Status
