import Phrasebook.Catalogue.Expansion
import Phrasebook.Catalogue.Search
import Phrasebook.Catalogue.Store
import Phrasebook.Catalogue.Table
import Phrasebook.Charset.Basic
import Phrasebook.Charset.Decode
import Phrasebook.Charset.SingleByte
import Phrasebook.Decimal.Binary
import Phrasebook.Decimal.Reading
import Phrasebook.Decimal.Shortest
import Phrasebook.Decimal.Style
import Phrasebook.Dict
import Phrasebook.Error
import Phrasebook.FileTree
import Phrasebook.Filename.Match
import Phrasebook.Filename.Template
import Phrasebook.Json.Basic
import Phrasebook.Json.Printer
import Phrasebook.Json.Reader
import Phrasebook.Json.Skip
import Phrasebook.Key
import Phrasebook.Message.Argument
import Phrasebook.Message.Category
import Phrasebook.Message.Value
import Phrasebook.Path
import Phrasebook.Proofs.Catalogue.Again
import Phrasebook.Proofs.Catalogue.Contract
import Phrasebook.Proofs.Catalogue.Cycles
import Phrasebook.Proofs.Catalogue.Full
import Phrasebook.Proofs.Catalogue.Lockstep
import Phrasebook.Proofs.Catalogue.Meaning
import Phrasebook.Proofs.Catalogue.Offline
import Phrasebook.Proofs.Catalogue.Outcome
import Phrasebook.Proofs.Catalogue.References
import Phrasebook.Proofs.Catalogue.Rewriting
import Phrasebook.Proofs.Catalogue.Settling
import Phrasebook.Proofs.Catalogue.Steady
import Phrasebook.Proofs.Catalogue.Stored
import Phrasebook.Proofs.Catalogue.Trail
import Phrasebook.Proofs.Decimal.Digits
import Phrasebook.Proofs.FileTree.Written
import Phrasebook.Proofs.Filename.Matching
import Phrasebook.Proofs.Filename.Printing
import Phrasebook.Proofs.Filename.Standard
import Phrasebook.Proofs.Json.Ordered
import Phrasebook.Proofs.Json.Written
import Phrasebook.Proofs.Rendering.Errors
import Phrasebook.Proofs.Rendering.Lenient
import Phrasebook.Proofs.Rendering.Splicing
import Phrasebook.Proofs.Resource.Entries
import Phrasebook.Proofs.Resource.Inside
import Phrasebook.Proofs.Resource.Layout
import Phrasebook.Proofs.Resource.Place
import Phrasebook.Proofs.Resource.Plain
import Phrasebook.Proofs.Resource.Remembered
import Phrasebook.Proofs.Resource.Visits
import Phrasebook.Proofs.Settings.Json
import Phrasebook.Proofs.Settings.Lawful
import Phrasebook.Proofs.Settings.Options
import Phrasebook.Proofs.Settings.Portable
import Phrasebook.Proofs.Settings.Saved
import Phrasebook.Proofs.Settings.Toml
import Phrasebook.Proofs.Settings.Valid
import Phrasebook.Proofs.Settings.Yaml
import Phrasebook.Proofs.Template.Matching
import Phrasebook.Proofs.Template.Parts
import Phrasebook.Proofs.Template.Pattern
import Phrasebook.Proofs.Template.Printing
import Phrasebook.Proofs.Template.Scanned
import Phrasebook.Proofs.Template.Seam
import Phrasebook.Proofs.Template.Splice
import Phrasebook.Proofs.Template.Standard
import Phrasebook.Proofs.Text.Split
import Phrasebook.Proofs.Traversal
import Phrasebook.Proofs.Translator.Lookup
import Phrasebook.Proofs.Translator.Memo
import Phrasebook.Proofs.Translator.Recorded
import Phrasebook.Proofs.Translator.Repeat
import Phrasebook.Proofs.Yaml.Composed
import Phrasebook.Proofs.Yaml.Scalar
import Phrasebook.Proofs.Yaml.Scanned
import Phrasebook.Rendering.Formatter
import Phrasebook.Rendering.Hooks
import Phrasebook.Rendering.Plural
import Phrasebook.Rendering.Variants
import Phrasebook.Resource.Entry
import Phrasebook.Resource.Error
import Phrasebook.Resource.Format
import Phrasebook.Resource.Lines
import Phrasebook.Resource.Search
import Phrasebook.Resource.Source
import Phrasebook.Settings.Assign
import Phrasebook.Settings.Basic
import Phrasebook.Settings.Data
import Phrasebook.Settings.Error
import Phrasebook.Settings.File
import Phrasebook.Settings.Json
import Phrasebook.Settings.Listing
import Phrasebook.Settings.Toml
import Phrasebook.Settings.Valid
import Phrasebook.Settings.Yaml
import Phrasebook.Template.Grammar
import Phrasebook.Template.Lexer
import Phrasebook.Template.Reference
import Phrasebook.Template.Token
import Phrasebook.Text.Blank
import Phrasebook.Text.CodePoint
import Phrasebook.Text.Quoted
import Phrasebook.Text.Split
import Phrasebook.Toml.Document
import Phrasebook.Toml.Scalar
import Phrasebook.Toml.Value
import Phrasebook.Translator
import Phrasebook.Unicode.Alphabetic
import Phrasebook.Unicode.Class
import Phrasebook.Unicode.Extender
import Phrasebook.Unicode.Hidden
import Phrasebook.Unicode.Mark
import Phrasebook.Unicode.Number
import Phrasebook.Unicode.Range
import Phrasebook.Yaml.Cursor
import Phrasebook.Yaml.Data
import Phrasebook.Yaml.Document
import Phrasebook.Yaml.Node
import Phrasebook.Yaml.Property
import Phrasebook.Yaml.Scalar
import Phrasebook.Yaml.Text
import Phrasebook.Yaml.Token
import Phrasebook.Proofs.Catalogue.Ending
import Phrasebook.Proofs.Translator.Misses
import Phrasebook.Proofs.Translator.Idle
import Phrasebook.Proofs.Dict.Ordered
import Phrasebook.Proofs.Resource.Projection
import Phrasebook.Proofs.FileTree.Listing
import Phrasebook.Proofs.Resource.Eager
import Phrasebook.Proofs.Translator.Change
import Phrasebook.Proofs.Translator.Coherent
import Phrasebook.Proofs.Translator.Default
import Phrasebook.Proofs.Resource.Honest
import Phrasebook.Proofs.Translator.Afresh
import Phrasebook.Proofs.Template.Unambiguous
import Phrasebook.Proofs.Catalogue.Whole
import Phrasebook.Proofs.Resource.HandedOut
import Phrasebook.Proofs.Resource.Reported
import Phrasebook.Proofs.Resource.Leaves
import Phrasebook.Proofs.Rendering.Tokens
import Phrasebook.Proofs.Rendering.Members
import Phrasebook.Proofs.Rendering.Slices
import Phrasebook.Proofs.Catalogue.Escaping
import Phrasebook.Proofs.Message.Written
import Phrasebook.Proofs.Key.Segments
import Phrasebook.Proofs.Key.Namespace
import Phrasebook.Proofs.Key.Outward
import Phrasebook.Proofs.Catalogue.Lossless
import Phrasebook.Proofs.Settings.Assigned
