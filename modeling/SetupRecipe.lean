import SetupRecipe.CommandLine.Arguments
import SetupRecipe.CommandLine.Run
import SetupRecipe.Config.Arithmetic
import SetupRecipe.Config.Body
import SetupRecipe.Config.Evaluation
import SetupRecipe.Config.Expression.Basic
import SetupRecipe.Config.Expression.Piece
import SetupRecipe.Config.Expression.Printer
import SetupRecipe.Config.Expression.Reader
import SetupRecipe.Config.Expression.Spacing
import SetupRecipe.Config.Expression.Template
import SetupRecipe.Config.Number
import SetupRecipe.Config.Reader
import SetupRecipe.Config.Value
import SetupRecipe.Decimal.Binary64
import SetupRecipe.Decimal.Layout
import SetupRecipe.Decimal.Power
import SetupRecipe.Decimal.Shortest
import SetupRecipe.Declaration.Block
import SetupRecipe.Declaration.CompileError
import SetupRecipe.Declaration.Manifest
import SetupRecipe.Declaration.Origin
import SetupRecipe.Declaration.Outline
import SetupRecipe.Declaration.Render
import SetupRecipe.Declaration.Settings
import SetupRecipe.Document.Attributes
import SetupRecipe.Document.Declare
import SetupRecipe.Document.Outline
import SetupRecipe.Document.Refusal
import SetupRecipe.Document.Store
import SetupRecipe.FileSystem.Basic
import SetupRecipe.FileSystem.Tree
import SetupRecipe.Main
import SetupRecipe.Node.Data
import SetupRecipe.Node.Entries
import SetupRecipe.Node.Json.Printer
import SetupRecipe.Node.Json.Reader
import SetupRecipe.Node.Json.Token
import SetupRecipe.Node.Value
import SetupRecipe.Node.Yaml.Plain
import SetupRecipe.Node.Yaml.Printer
import SetupRecipe.Node.Yaml.Reader
import SetupRecipe.Node.Yaml.Scalar
import SetupRecipe.Node.Yaml.Token
import SetupRecipe.Node.Yaml.Tree
import SetupRecipe.Program.Draft
import SetupRecipe.Program.Run
import SetupRecipe.Program.Statement
import SetupRecipe.Proofs.AcceptedStructures
import SetupRecipe.Proofs.AttributeOrder
import SetupRecipe.Proofs.CodeLines
import SetupRecipe.Proofs.CommandWords
import SetupRecipe.Proofs.CompileRuns
import SetupRecipe.Proofs.DeclaredActions
import SetupRecipe.Proofs.DeclaredModes
import SetupRecipe.Proofs.FragmentActions
import SetupRecipe.Proofs.FragmentTexts
import SetupRecipe.Proofs.Growth
import SetupRecipe.Proofs.GuardLines
import SetupRecipe.Proofs.HelperScope
import SetupRecipe.Proofs.Heredocs
import SetupRecipe.Proofs.JsonValues
import SetupRecipe.Proofs.Labels
import SetupRecipe.Proofs.LastingValues
import SetupRecipe.Proofs.LineContents
import SetupRecipe.Proofs.LineEnds
import SetupRecipe.Proofs.LoadedDocuments
import SetupRecipe.Proofs.ManifestEntries
import SetupRecipe.Proofs.ManifestReadings
import SetupRecipe.Proofs.Memoisation
import SetupRecipe.Proofs.Moments
import SetupRecipe.Proofs.NestedGuards
import SetupRecipe.Proofs.NodeConversion
import SetupRecipe.Proofs.OrderedTrees
import SetupRecipe.Proofs.OriginTexts
import SetupRecipe.Proofs.Permissions
import SetupRecipe.Proofs.QuotedTexts
import SetupRecipe.Proofs.ReadBack
import SetupRecipe.Proofs.RefusalReports
import SetupRecipe.Proofs.RefusedStructures
import SetupRecipe.Proofs.RepeatedRuns
import SetupRecipe.Proofs.ScriptLayout
import SetupRecipe.Proofs.ScriptReader
import SetupRecipe.Proofs.SpelledOptions
import SetupRecipe.Proofs.SplitDocuments
import SetupRecipe.Proofs.Targets
import SetupRecipe.Proofs.Translation
import SetupRecipe.Proofs.Trees
import SetupRecipe.Proofs.Violations
import SetupRecipe.Proofs.VisibleCode
import SetupRecipe.Proofs.WorkingDirectory
import SetupRecipe.Recipe
import SetupRecipe.Shell.Fragment
import SetupRecipe.Shell.Heredoc
import SetupRecipe.Shell.Mode
import SetupRecipe.Shell.Quote
import SetupRecipe.Text.Blank
import SetupRecipe.Text.Hidden
import SetupRecipe.Text.Lines
import SetupRecipe.Text.Quoted
