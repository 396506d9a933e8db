import DocGraft.Batch.Job
import DocGraft.Batch.Pool
import DocGraft.Batch.Run
import DocGraft.Bookend.DocAttribute
import DocGraft.Bookend.Macro
import DocGraft.Bookend.Reformat
import DocGraft.Cli.Command
import DocGraft.Cli.Form
import DocGraft.Cli.Misuse
import DocGraft.Cli.Run
import DocGraft.Cli.Scan
import DocGraft.Cli.Session
import DocGraft.Cli.Shell
import DocGraft.Cli.Suggestion
import DocGraft.Cli.Usual
import DocGraft.Console
import DocGraft.Diff.Alignment
import DocGraft.Diff.Unified
import DocGraft.Files.Path
import DocGraft.Files.Tree
import DocGraft.Formatter
import DocGraft.Grid
import DocGraft.Hunk
import DocGraft.Hunk.Relevance
import DocGraft.Hunk.Render
import DocGraft.Hunk.Split
import DocGraft.Hunk.Unnamed
import DocGraft.Json
import DocGraft.Line.Kind
import DocGraft.Main
import DocGraft.Markup
import DocGraft.Markup.Color
import DocGraft.Markup.Literal
import DocGraft.Markup.Literal.Token
import DocGraft.Markup.Style
import DocGraft.Markup.Tag
import DocGraft.Merge
import DocGraft.Number.Binary64
import DocGraft.Number.Digit
import DocGraft.Number.Reader
import DocGraft.Number.Shortest
import DocGraft.Progress
import DocGraft.Report.Batch
import DocGraft.Report.File
import DocGraft.Screen
import DocGraft.Settings.Basic
import DocGraft.Settings.Layers
import DocGraft.Settings.Override
import DocGraft.Splice
import DocGraft.Text.Basic
import DocGraft.Text.Cells
import DocGraft.Text.ControlSequence
import DocGraft.Text.Grapheme
import DocGraft.Text.LineBreak
import DocGraft.Text.Lowercase
import DocGraft.Text.Printable
import DocGraft.Text.Quoted
import DocGraft.Text.Utf8
import DocGraft.Text.WordChar
import DocGraft.Text.Wrap
import DocGraft.Toml.Document
import DocGraft.Toml.Scan
import DocGraft.Toml.Store
import DocGraft.Trace
import DocGraft.Value
import DocGraft.Value.Amount
import DocGraft.Value.Moment
import DocGraft.Proofs.LineClasses
import DocGraft.Proofs.LineKinds
import DocGraft.Proofs.Rendering
import DocGraft.Proofs.Splicing
import DocGraft.Proofs.Alignment
import DocGraft.Proofs.HunkOrder
import DocGraft.Proofs.MergedSegments
import DocGraft.Proofs.CarriedDocs
import DocGraft.Proofs.DocTransfer
import DocGraft.Proofs.Exchange
import DocGraft.Proofs.ExchangedDocs
import DocGraft.Proofs.StandIns
import DocGraft.Proofs.RoundTrip
import DocGraft.Proofs.EditScript
import DocGraft.Proofs.AppliedPlan
import DocGraft.Proofs.ReformattedLines
import DocGraft.Proofs.CodeLines
import DocGraft.Proofs.RestoredComments
import DocGraft.Proofs.FilePlaces
import DocGraft.Proofs.JobReports
import DocGraft.Proofs.PoolRuns
import DocGraft.Proofs.BatchWriting
import DocGraft.Proofs.CompletionOrder
import DocGraft.Proofs.UnifiedDiff
import DocGraft.Proofs.DryRun
import DocGraft.Proofs.DiscoveredJobs
import DocGraft.Proofs.WrittenFiles
import DocGraft.Proofs.FailFast
import DocGraft.Proofs.MatchedBlocks
import DocGraft.Proofs.TablePaths
import DocGraft.Proofs.PathUpdates
import DocGraft.Proofs.SettingsLayers
import DocGraft.Proofs.SectionChecks
import DocGraft.Proofs.SettingsPriority
import DocGraft.Proofs.MergeCommand
import DocGraft.Proofs.ProgressBar
import DocGraft.Proofs.RunEvents
import DocGraft.Proofs.MixedHunks
import DocGraft.Proofs.SharedPlaces
import DocGraft.Proofs.AttributeSpelling
import DocGraft.Proofs.ModuleBookends
import DocGraft.Proofs.KeptLines
import DocGraft.Proofs.LongAttributes
import DocGraft.Proofs.TrimmedTexts
import DocGraft.Proofs.ReformattedTexts
import DocGraft.Proofs.FailedReformatting
import DocGraft.Proofs.Respacing
import DocGraft.Proofs.TextValues
import DocGraft.Proofs.SelfAlignment
import DocGraft.Proofs.DiffGroups
import DocGraft.Proofs.DiffPatch
import DocGraft.Proofs.PrintedDiff
import DocGraft.Proofs.JsonReader
import DocGraft.Proofs.JsonTexts
import DocGraft.Proofs.JsonReports
