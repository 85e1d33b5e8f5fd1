import ModuleDocs.Command.Arguments
import ModuleDocs.Command.Report
import ModuleDocs.Command.Run
import ModuleDocs.Config.Record
import ModuleDocs.Config.Store
import ModuleDocs.Help.Reader
import ModuleDocs.Json.Parse
import ModuleDocs.Json.Print
import ModuleDocs.Local.Checkout
import ModuleDocs.Main
import ModuleDocs.Program.Shell
import ModuleDocs.Proofs.Selection.Policy
import ModuleDocs.Remote.GitHub
import ModuleDocs.Remote.Record
import ModuleDocs.Remote.Repository
import ModuleDocs.Remote.Slug
import ModuleDocs.Remote.Token
import ModuleDocs.Selection.Collect
import ModuleDocs.Text.Lowercase
import ModuleDocs.Proofs.Selection.Invariant
import ModuleDocs.Proofs.Remote.Calls
import ModuleDocs.Proofs.Remote.Hosts
import ModuleDocs.Proofs.Selection.Unreachable
import ModuleDocs.Proofs.Text.Digits
import ModuleDocs.Proofs.Text.Utf8
import ModuleDocs.Proofs.Toml.Quoted
import ModuleDocs.Proofs.Toml.Value
import ModuleDocs.Proofs.Toml.Document
import ModuleDocs.Proofs.Tree.Path
import ModuleDocs.Proofs.Tree.Write
import ModuleDocs.Proofs.Config.RoundTrip
import ModuleDocs.Proofs.Text.Lines
import ModuleDocs.Proofs.Example.Content
import ModuleDocs.Proofs.Help.Sections
import ModuleDocs.Proofs.Help.ParameterBlocks
import ModuleDocs.Proofs.Help.UsageParts
import ModuleDocs.Proofs.Help.UsageText
import ModuleDocs.Proofs.Text.Returns
import ModuleDocs.Proofs.Example.Recognition
import ModuleDocs.Proofs.Example.Stability
import ModuleDocs.Proofs.Text.Edges
import ModuleDocs.Proofs.Help.Sources
import ModuleDocs.Proofs.Help.NodeText
import ModuleDocs.Proofs.Help.WellFormed
import ModuleDocs.Proofs.Help.Members
import ModuleDocs.Proofs.Help.Shapes
import ModuleDocs.Proofs.Example.Nesting
import ModuleDocs.Proofs.Text.Lowercase
import ModuleDocs.Proofs.Remote.Tokens
import ModuleDocs.Proofs.Document.Choice
import ModuleDocs.Proofs.Selection.Found
import ModuleDocs.Proofs.Selection.Copies
import ModuleDocs.Proofs.Example.Boundary
import ModuleDocs.Proofs.Example.Enclosed
import ModuleDocs.Proofs.Example.Tally
import ModuleDocs.Proofs.Help.Layout
import ModuleDocs.Proofs.Help.ParameterText
import ModuleDocs.Proofs.Help.ExampleText
import ModuleDocs.Proofs.Document.Contents
import ModuleDocs.Proofs.Selection.Notes
import ModuleDocs.Proofs.Remote.Isolation
import ModuleDocs.Proofs.Tree.Relative
import ModuleDocs.Proofs.Remote.Listings
import ModuleDocs.Proofs.Selection.Agreement
import ModuleDocs.Proofs.Text.Difference
import ModuleDocs.Proofs.Selection.Differences
import ModuleDocs.Proofs.Help.Repeats
import ModuleDocs.Proofs.Help.Completion
import ModuleDocs.Proofs.Help.Unseen
import ModuleDocs.Proofs.Help.LoneItems
import ModuleDocs.Proofs.Help.LetterCase
import ModuleDocs.Proofs.Help.UsageNames
import ModuleDocs.Proofs.Help.ExampleTitle
import ModuleDocs.Proofs.Selection.Introduction
import ModuleDocs.Proofs.Help.Dedent
import ModuleDocs.Proofs.Remote.Slug
import ModuleDocs.Proofs.Remote.Payload
import ModuleDocs.Proofs.Config.Settings
