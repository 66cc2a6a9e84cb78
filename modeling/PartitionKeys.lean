import PartitionKeys.Attribute
import PartitionKeys.Bindings.Attributes
import PartitionKeys.Bindings.Checked
import PartitionKeys.Bindings.Issue
import PartitionKeys.Bindings.StateMapper
import PartitionKeys.Bindings.World
import PartitionKeys.ClassGraph.Basic
import PartitionKeys.ClassGraph.Catalog
import PartitionKeys.ClassGraph.Declaration
import PartitionKeys.ClassGraph.Linearization
import PartitionKeys.Classification
import PartitionKeys.CommandLine.Arguments
import PartitionKeys.CommandLine.Highlight
import PartitionKeys.CommandLine.Literal.Basic
import PartitionKeys.CommandLine.Literal.Content
import PartitionKeys.CommandLine.Literal.Expr
import PartitionKeys.CommandLine.Literal.Formatted
import PartitionKeys.CommandLine.Literal.Grammar
import PartitionKeys.CommandLine.Literal.Reading
import PartitionKeys.CommandLine.Literal.Token
import PartitionKeys.CommandLine.Markup
import PartitionKeys.CommandLine.Run
import PartitionKeys.CommandLine.Styled
import PartitionKeys.CommandLine.Table
import PartitionKeys.CommandLine.TagStyle
import PartitionKeys.CommandLine.TargetFile
import PartitionKeys.CommandLine.Terminal
import PartitionKeys.Failure
import PartitionKeys.Hierarchy.Basic
import PartitionKeys.Hierarchy.Climb
import PartitionKeys.Hierarchy.Coverage
import PartitionKeys.Hierarchy.Index
import PartitionKeys.Job.Category
import PartitionKeys.Job.Policy
import PartitionKeys.Job.State
import PartitionKeys.Key.Basic
import PartitionKeys.Key.KeyRing
import PartitionKeys.Log.Event
import PartitionKeys.Log.Journal
import PartitionKeys.Log.Level
import PartitionKeys.Log.Session
import PartitionKeys.Log.Threshold
import PartitionKeys.Main
import PartitionKeys.Number.Binary64
import PartitionKeys.Report.Basic
import PartitionKeys.Report.Context
import PartitionKeys.Settings.Basic
import PartitionKeys.Settings.EnvFile
import PartitionKeys.Signature
import PartitionKeys.Template.Check
import PartitionKeys.Template.Fault
import PartitionKeys.Template.Field
import PartitionKeys.Template.FormatSpec
import PartitionKeys.Template.Kind
import PartitionKeys.Template.KindTable
import PartitionKeys.Template.Operand
import PartitionKeys.Template.Render
import PartitionKeys.Template.WholeFormat
import PartitionKeys.Text.Blank
import PartitionKeys.Text.CaseTable
import PartitionKeys.Text.CellWidth
import PartitionKeys.Text.CharSet
import PartitionKeys.Text.CharacterName
import PartitionKeys.Text.CharacterNameTable
import PartitionKeys.Text.Digit
import PartitionKeys.Text.Emoji
import PartitionKeys.Text.EmojiTable
import PartitionKeys.Text.Identifier
import PartitionKeys.Text.LetterCase
import PartitionKeys.Text.Pattern
import PartitionKeys.Text.Printable
import PartitionKeys.Text.Quoted
import PartitionKeys.Text.Utf8
import PartitionKeys.Text.Word
import PartitionKeys.Traced
import PartitionKeys.Value.Basic
import PartitionKeys.Value.Json
import PartitionKeys.Proofs.Hierarchy.Climb
import PartitionKeys.Proofs.Hierarchy.Coverage
import PartitionKeys.Proofs.Key.KeyRing
import PartitionKeys.Proofs.Key.Selection
import PartitionKeys.Proofs.Hierarchy.Ascent
import PartitionKeys.Proofs.Hierarchy.Fault
import PartitionKeys.Proofs.Key.Order
import PartitionKeys.Proofs.ClassGraph.Lineage
import PartitionKeys.Proofs.Key.Region
import PartitionKeys.Proofs.ClassGraph.Catalog
import PartitionKeys.Proofs.ClassGraph.Description
import PartitionKeys.Proofs.ClassGraph.Subclassing
import PartitionKeys.Proofs.ClassGraph.Rejection
import PartitionKeys.Proofs.ClassGraph.Mapping
import PartitionKeys.Proofs.Hierarchy.Leaf
import PartitionKeys.Proofs.Key.Leaf
import PartitionKeys.Proofs.Template.Alike
import PartitionKeys.Proofs.Template.Render
import PartitionKeys.Proofs.Key.Fragment
import PartitionKeys.Proofs.Hierarchy.Circle
import PartitionKeys.Proofs.Key.Events
import PartitionKeys.Proofs.Key.Settings
import PartitionKeys.Proofs.Text.Cuts
import PartitionKeys.Proofs.Text.Quoted
import PartitionKeys.Proofs.Template.Inside
import PartitionKeys.Proofs.Template.Telling
import PartitionKeys.Proofs.Key.Telling
import PartitionKeys.Proofs.ClassGraph.Listing
import PartitionKeys.Proofs.Hierarchy.Laminar
import PartitionKeys.Proofs.Hierarchy.Extent
import PartitionKeys.Proofs.CommandLine.Arguments
import PartitionKeys.Proofs.CommandLine.Ending
import PartitionKeys.Proofs.Key.Entries
import PartitionKeys.Proofs.Template.Plain
import PartitionKeys.Proofs.Template.Shown
import PartitionKeys.Proofs.Key.Unusable
import PartitionKeys.Proofs.Bindings.Resolution
import PartitionKeys.Proofs.Bindings.Checked
import PartitionKeys.Proofs.Bindings.Validation
import PartitionKeys.Proofs.Bindings.Partition
import PartitionKeys.Proofs.Value.Fields
import PartitionKeys.Proofs.Report.Context
import PartitionKeys.Proofs.Report.Adding
import PartitionKeys.Proofs.Log.Refusal
import PartitionKeys.Proofs.Log.Written
