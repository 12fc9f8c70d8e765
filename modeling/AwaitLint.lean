import AwaitLint.Connection
import AwaitLint.Main
import AwaitLint.Server.Handler
import AwaitLint.Proofs.Numbering
import AwaitLint.Proofs.Attribution
import AwaitLint.Proofs.SummaryAgreement
import AwaitLint.Proofs.MaximalRuns
import AwaitLint.Proofs.TopLevelSteps
import AwaitLint.Proofs.Findings
import AwaitLint.Proofs.JsonScalars
import AwaitLint.Proofs.JsonRoundTrip
import AwaitLint.Proofs.ResultText
import AwaitLint.Proofs.ResultContent
import AwaitLint.Proofs.KeyBytes
import AwaitLint.Proofs.ConcurrentCalls
import AwaitLint.Proofs.CachedAnswers
import AwaitLint.Proofs.KeySufficiency
import AwaitLint.Proofs.OpenReads
import AwaitLint.Proofs.Renaming
import AwaitLint.Proofs.RuleSelection
import AwaitLint.Proofs.BatchEntries
import AwaitLint.Proofs.CallCounts
import AwaitLint.Proofs.StackDiscipline
import AwaitLint.Proofs.BatchCounts
import AwaitLint.Proofs.FileNames
import AwaitLint.Proofs.RunCuts
import AwaitLint.Proofs.TextLines
import AwaitLint.Proofs.CommentRecords
import AwaitLint.Proofs.TokenExtents
import AwaitLint.Proofs.LexerSteps
import AwaitLint.Proofs.StringLines
import AwaitLint.Proofs.ScanPlaces
import AwaitLint.Proofs.PassedComments
import AwaitLint.Proofs.MarkedLines
import AwaitLint.Proofs.NameMentions
import AwaitLint.Proofs.WholeStatements
import AwaitLint.Proofs.AppendedCode
import AwaitLint.Proofs.MergedSuggestions
import AwaitLint.Proofs.MergeLaws
import AwaitLint.Proofs.ReportedFindings
import AwaitLint.Proofs.WordCharacters
import AwaitLint.Proofs.ListedCodes
import AwaitLint.Proofs.NearestNumbers
import AwaitLint.Proofs.ShortestDecimals
import AwaitLint.Proofs.NumberTexts
import AwaitLint.Proofs.KeptResults
import AwaitLint.Proofs.CommaLists
import AwaitLint.Proofs.PathPatterns
import AwaitLint.Proofs.Directives
import AwaitLint.Proofs.HeaderComments
import AwaitLint.Proofs.TextOrder
import AwaitLint.Proofs.ParserOrder
import AwaitLint.Proofs.FormattedOrder
import AwaitLint.Proofs.ExpressionOrder
import AwaitLint.Proofs.StatementOrder
import AwaitLint.Proofs.AwaitOrder
import AwaitLint.Proofs.WrittenNames
import AwaitLint.Proofs.RefusedRequests
import AwaitLint.Proofs.WalkedFiles
import AwaitLint.Proofs.PathTexts
import AwaitLint.Proofs.CommandLines
import AwaitLint.Proofs.LintReports
import AwaitLint.Proofs.NameTokens
import AwaitLint.Proofs.PatternNames
import AwaitLint.Proofs.ParserResults
import AwaitLint.Proofs.ExpressionTrees
import AwaitLint.Proofs.PatternTrees
import AwaitLint.Proofs.StatementTrees
