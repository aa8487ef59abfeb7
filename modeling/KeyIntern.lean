import KeyIntern.Text.CharClass
import KeyIntern.Text.Search
import KeyIntern.Targets
import KeyIntern.KeywordSet
import KeyIntern.Json.Quote
import KeyIntern.Path
import KeyIntern.Artifact
import KeyIntern.Script.Dialect
import KeyIntern.Script.Token
import KeyIntern.Script.Word
import KeyIntern.Script.Lexer
import KeyIntern.Script.Syntax
import KeyIntern.Script.Parser.Basic
import KeyIntern.Script.Parser.Types
import KeyIntern.Script.Parser.Patterns
import KeyIntern.Script.Parser.Functions
import KeyIntern.Script.Parser.Jsx
import KeyIntern.Script.Parser.Expressions
import KeyIntern.Script.Parser.Statements
import KeyIntern.Script.Parser
import KeyIntern.Script.Markup
import KeyIntern.Extract
import KeyIntern.Exclusion
import KeyIntern.Failure
import KeyIntern.Files.Tree
import KeyIntern.Decimal.Binary64
import KeyIntern.Decimal.Shortest
import KeyIntern.Text.Shown
import KeyIntern.Json.Reader
import KeyIntern.Json.Scalar
import KeyIntern.Config
import KeyIntern.Files.GitRoot
import KeyIntern.Ignore.Glob
import KeyIntern.Ignore.Rules
import KeyIntern.Walk
import KeyIntern.Scan
import KeyIntern.Session
import KeyIntern.Command.Similarity
import KeyIntern.Command.Grammar
import KeyIntern.Command.Parse
import KeyIntern.Cli
import KeyIntern.Files.Snapshot
import KeyIntern.Main
import KeyIntern.Proofs.KeywordSetLaws
import KeyIntern.Proofs.Discovery
import KeyIntern.Proofs.Aggregation
import KeyIntern.Proofs.Locations
import KeyIntern.Proofs.TreeLookup
import KeyIntern.Proofs.CanonicalPaths
import KeyIntern.Proofs.TreeEdits
import KeyIntern.Proofs.WriteThrough
import KeyIntern.Proofs.CollectedFiles
import KeyIntern.Proofs.SessionCoverage
import KeyIntern.Proofs.TargetMonotonicity
import KeyIntern.Proofs.ExportSurface
import KeyIntern.Proofs.Regeneration
import KeyIntern.Proofs.ArtifactSync
import KeyIntern.Proofs.MarkupScripts
import KeyIntern.Proofs.RootIgnoreWalk
import KeyIntern.Proofs.SessionExclusion
import KeyIntern.Proofs.ReaderSteps
import KeyIntern.Proofs.PaddedReading
import KeyIntern.Proofs.PaddedSettings
import KeyIntern.Proofs.ConfigComments
import KeyIntern.Proofs.TargetNames
import KeyIntern.Proofs.IgnoreEntries
import KeyIntern.Proofs.SessionKeywords
