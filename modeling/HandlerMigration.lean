import HandlerMigration.Bracket
import HandlerMigration.Command.Arguments
import HandlerMigration.Command.Batch
import HandlerMigration.Command.Execute
import HandlerMigration.Command.Report
import HandlerMigration.Diff.Compact
import HandlerMigration.Diff.Script
import HandlerMigration.Diff.Unified
import HandlerMigration.Files.Glob
import HandlerMigration.Files.Ignore
import HandlerMigration.Files.Path
import HandlerMigration.Files.Tree
import HandlerMigration.Handler.Canonical
import HandlerMigration.Handler.Policy
import HandlerMigration.Handler.Survey
import HandlerMigration.Main
import HandlerMigration.Migration.Basic
import HandlerMigration.Migration.Declarations
import HandlerMigration.Migration.Requests
import HandlerMigration.Migration.Responses
import HandlerMigration.Migration.Run
import HandlerMigration.Pattern.Basic
import HandlerMigration.Pattern.CharSet
import HandlerMigration.Pattern.Cursor
import HandlerMigration.Pattern.Flow
import HandlerMigration.Pattern.Match
import HandlerMigration.Pattern.Written.Atom
import HandlerMigration.Pattern.Written.Reader
import HandlerMigration.Pattern.Written.Set
import HandlerMigration.Settings.Basic
import HandlerMigration.Settings.Discover
import HandlerMigration.Settings.Document
import HandlerMigration.Shape.Basic
import HandlerMigration.Shape.Client
import HandlerMigration.Shape.Declaration
import HandlerMigration.Shape.Request
import HandlerMigration.Shape.Response
import HandlerMigration.Text.Basic
import HandlerMigration.Text.Edit
import HandlerMigration.Text.Line
import HandlerMigration.Unicode.Age
import HandlerMigration.Unicode.Blank
import HandlerMigration.Unicode.Category
import HandlerMigration.Unicode.Fold
import HandlerMigration.Unicode.Property
import HandlerMigration.Unicode.Script
import HandlerMigration.Unicode.Table
import HandlerMigration.Unicode.Word
import HandlerMigration.Proofs.Cut
import HandlerMigration.Proofs.Splice
import HandlerMigration.Proofs.BracketGrammar
import HandlerMigration.Proofs.Search
import HandlerMigration.Proofs.Rewriting
import HandlerMigration.Proofs.Outline
import HandlerMigration.Proofs.HeaderSites
import HandlerMigration.Proofs.CatchGuards
import HandlerMigration.Proofs.Rest
import HandlerMigration.Proofs.Safeguards
import HandlerMigration.Proofs.Rerun
import HandlerMigration.Proofs.BatchWrites
import HandlerMigration.Proofs.CleanRun
import HandlerMigration.Proofs.ScanWalk
import HandlerMigration.Proofs.PreflightBrackets
import HandlerMigration.Proofs.WholeLines
import HandlerMigration.Proofs.LineSeams
import HandlerMigration.Proofs.AuthInjection
import HandlerMigration.Proofs.AuthPlacement
import HandlerMigration.Proofs.OriginOnce
import HandlerMigration.Proofs.HeaderRemoval
import HandlerMigration.Proofs.Audit
import HandlerMigration.Proofs.PreflightAnchor
import HandlerMigration.Proofs.BatchAccounts
import HandlerMigration.Proofs.Alignment
import HandlerMigration.Proofs.GuardedCatches
import HandlerMigration.Proofs.NamedImports
import HandlerMigration.Proofs.ImportExtension
import HandlerMigration.Proofs.ImportPlacement
import HandlerMigration.Proofs.Places
import HandlerMigration.Proofs.ReferenceCount
import HandlerMigration.Proofs.RosterPartition
import HandlerMigration.Proofs.StepTotality
import HandlerMigration.Proofs.CorsOnlyRun
import HandlerMigration.Proofs.EditOrder
import HandlerMigration.Proofs.LineEndings
import HandlerMigration.Proofs.ScanLineEndings
import HandlerMigration.Proofs.PatternLineEndings
import HandlerMigration.Proofs.ShapeLineEndings
import HandlerMigration.Proofs.ImportLineEndings
import HandlerMigration.Proofs.BlankLines
