import DocContract.Blueprint.Block
import DocContract.Blueprint.Decoding
import DocContract.Blueprint.Document
import DocContract.Blueprint.Payload
import DocContract.Command.Help
import DocContract.Command.Outcome
import DocContract.Command.Request
import DocContract.Command.Rule
import DocContract.Command.Run
import DocContract.Command.Summary
import DocContract.Decimal
import DocContract.Digest
import DocContract.Files.Access
import DocContract.Files.Store
import DocContract.Handbook.Checklist
import DocContract.Handbook.Files
import DocContract.Handbook.Folder
import DocContract.Handbook.Grouping
import DocContract.Handbook.Rules
import DocContract.Handbook.Skeleton
import DocContract.Identifier.Check
import DocContract.Identifier.Completion
import DocContract.Identifier.Grammar
import DocContract.Identifier.Mention
import DocContract.Identifier.Occurrence
import DocContract.Issue
import DocContract.Json.Parser
import DocContract.Json.Printer
import DocContract.Json.Record
import DocContract.Json.Value
import DocContract.Main
import DocContract.Outline.Check
import DocContract.Outline.Fence
import DocContract.Outline.Heading
import DocContract.Outline.Placement
import DocContract.Outline.Scopes
import DocContract.Outline.Sequence
import DocContract.Outline.Slot
import DocContract.Pathname
import DocContract.Policy
import DocContract.Project.Config
import DocContract.Project.Documents
import DocContract.Project.Spec
import DocContract.Proofs.Outline.Completeness
import DocContract.Proofs.Outline.Hierarchy
import DocContract.Proofs.Outline.Issues
import DocContract.Proofs.Outline.Run
import DocContract.Proofs.Outline.Scoping
import DocContract.Proofs.Outline.Section
import DocContract.Proofs.Outline.Soundness
import DocContract.Proofs.Outline.Step
import DocContract.Proofs.Outline.Window
import DocContract.Proofs.Sorted.Lookup
import DocContract.Proofs.Validation.Consistency
import DocContract.Proofs.Validation.Index
import DocContract.Regex.Basic
import DocContract.Regex.Bracket
import DocContract.Regex.CharClass
import DocContract.Regex.Escape
import DocContract.Regex.Flags
import DocContract.Regex.Parser
import DocContract.Report
import DocContract.Schema.Compile
import DocContract.Schema.Digest
import DocContract.Schema.Encoding
import DocContract.Schema.File
import DocContract.Schema.Hierarchy
import DocContract.Schema.Model
import DocContract.Sorted.KeyMap
import DocContract.Sorted.KeySet
import DocContract.Text.Blank
import DocContract.Text.CaseMap
import DocContract.Text.Category
import DocContract.Text.Digit
import DocContract.Text.Letter
import DocContract.Text.Line
import DocContract.Text.Numbering
import DocContract.Text.Property
import DocContract.Text.Quoted
import DocContract.Text.Ranges
import DocContract.Text.Script
import DocContract.Text.Separated
import DocContract.Text.Slug
import DocContract.TitlePattern
import DocContract.TitlePattern.Metacharacter
import DocContract.Toml.Datetime
import DocContract.Toml.Document
import DocContract.Toml.Number
import DocContract.Toml.Table
import DocContract.Toml.Text
import DocContract.Toml.Value
import DocContract.Validation.Context
import DocContract.Validation.Cross
import DocContract.Validation.Document
import DocContract.Proofs.Pathname.Order
import DocContract.Proofs.Schema.Arrangement
import DocContract.Proofs.Schema.Acceptance
import DocContract.Proofs.Text.Trim
import DocContract.Proofs.Schema.WellFormed
import DocContract.Proofs.Identifier.Systems
import DocContract.Proofs.Identifier.Canonical
import DocContract.Proofs.Json.Record
import DocContract.Proofs.Schema.RoundTrip
import DocContract.Proofs.Validation.Position
import DocContract.Proofs.Validation.Causes
import DocContract.Proofs.Validation.Coverage
import DocContract.Proofs.Validation.Permutation
import DocContract.Proofs.Identifier.Issues
import DocContract.Proofs.Identifier.Resolution
import DocContract.Proofs.Validation.External
import DocContract.Proofs.Text.Lines
import DocContract.Proofs.Outline.Reading
import DocContract.Proofs.Outline.Scanning
import DocContract.Proofs.Text.Slug
import DocContract.Proofs.Handbook.Skeleton
import DocContract.Proofs.Handbook.Template
import DocContract.Proofs.Blueprint.Blocks
import DocContract.Proofs.Blueprint.Account
import DocContract.Proofs.Schema.Content
import DocContract.Proofs.Schema.Digest
import DocContract.Proofs.Files.Store
import DocContract.Proofs.Command.Compile
import DocContract.Proofs.Outline.Sequence
import DocContract.Proofs.Outline.Scopes
import DocContract.Proofs.Identifier.Completion
import DocContract.Proofs.Identifier.Acceptance
import DocContract.Proofs.Outline.Omission
import DocContract.Proofs.Outline.Sibling
import DocContract.Proofs.Text.CaseMap
import DocContract.Proofs.Text.Numbering
import DocContract.Proofs.TitlePattern.Numbering
import DocContract.Proofs.Outline.Renumbering
import DocContract.Proofs.Outline.Details
import DocContract.Proofs.Blueprint.Locality
import DocContract.Proofs.Identifier.Parts
import DocContract.Proofs.Identifier.Registration
import DocContract.Proofs.Blueprint.Body
import DocContract.Proofs.Outline.Fencing
import DocContract.Proofs.Identifier.Words
import DocContract.Proofs.Outline.Numbers
import DocContract.Proofs.Schema.Siblings
import DocContract.Proofs.Handbook.Grouping
import DocContract.Proofs.Json.Issue
import DocContract.Proofs.Validation.Recovery
