import SnippetGauge.Command.Analyze
import SnippetGauge.Command.Serve
import SnippetGauge.Comment
import SnippetGauge.Complexity.Declaration
import SnippetGauge.Complexity.Estimate
import SnippetGauge.Complexity.LoopDepth
import SnippetGauge.Complexity.Signature
import SnippetGauge.Detection
import SnippetGauge.Encoding
import SnippetGauge.Files
import SnippetGauge.Indentation
import SnippetGauge.Json.Parse
import SnippetGauge.Json.Print
import SnippetGauge.Json.Real
import SnippetGauge.Json.Value
import SnippetGauge.Language
import SnippetGauge.Lint
import SnippetGauge.Lint.Cpp
import SnippetGauge.Lint.Java
import SnippetGauge.Lint.Python
import SnippetGauge.Lint.Rule
import SnippetGauge.Main
import SnippetGauge.Options
import SnippetGauge.Options.Help
import SnippetGauge.Proofs.AnalysisExtent
import SnippetGauge.Proofs.AnswerCourse
import SnippetGauge.Proofs.AnswerLayers
import SnippetGauge.Proofs.BlankRuns
import SnippetGauge.Proofs.BlockComments
import SnippetGauge.Proofs.BonusPatterns
import SnippetGauge.Proofs.BracedLoops
import SnippetGauge.Proofs.CallPlaces
import SnippetGauge.Proofs.CheckOrder
import SnippetGauge.Proofs.CodeSecrecy
import SnippetGauge.Proofs.CommandReport
import SnippetGauge.Proofs.CommentLines
import SnippetGauge.Proofs.CommentResidue
import SnippetGauge.Proofs.CrossOrigin
import SnippetGauge.Proofs.DeclarationHeads
import SnippetGauge.Proofs.DeclaredCalls
import SnippetGauge.Proofs.EncodedText
import SnippetGauge.Proofs.ErrorBodies
import SnippetGauge.Proofs.EstimatePrecedence
import SnippetGauge.Proofs.EvidenceGrowth
import SnippetGauge.Proofs.FindingOrder
import SnippetGauge.Proofs.HeaderComment
import SnippetGauge.Proofs.HistoryFree
import SnippetGauge.Proofs.IndentationLevels
import SnippetGauge.Proofs.IndentedLoops
import SnippetGauge.Proofs.JoinedLoops
import SnippetGauge.Proofs.JoinedTexts
import SnippetGauge.Proofs.KeywordFindings
import SnippetGauge.Proofs.LaidOutBlocks
import SnippetGauge.Proofs.LanguageNames
import SnippetGauge.Proofs.LayoutFree
import SnippetGauge.Proofs.LeadingBreaks
import SnippetGauge.Proofs.LengthHeader
import SnippetGauge.Proofs.LineComments
import SnippetGauge.Proofs.LineMatches
import SnippetGauge.Proofs.Lines
import SnippetGauge.Proofs.LoadedSettings
import SnippetGauge.Proofs.LoopWords
import SnippetGauge.Proofs.LoweredLines
import SnippetGauge.Proofs.Margins
import SnippetGauge.Proofs.MountPoints
import SnippetGauge.Proofs.MovedDown
import SnippetGauge.Proofs.Remarks
import SnippetGauge.Proofs.RequestAcceptance
import SnippetGauge.Proofs.ReturnComments
import SnippetGauge.Proofs.ReturnDeclarations
import SnippetGauge.Proofs.ReturnEstimate
import SnippetGauge.Proofs.ReturnHeads
import SnippetGauge.Proofs.ReturnPatterns
import SnippetGauge.Proofs.ReturnScores
import SnippetGauge.Proofs.ReturnSignatures
import SnippetGauge.Proofs.ReturnWords
import SnippetGauge.Proofs.Returns
import SnippetGauge.Proofs.SameAnalysis
import SnippetGauge.Proofs.SecurityHeaders
import SnippetGauge.Proofs.SelfCalls
import SnippetGauge.Proofs.SizeRefusal
import SnippetGauge.Proofs.SpelledTokens
import SnippetGauge.Proofs.SubmittedCode
import SnippetGauge.Proofs.TelemetryTally
import SnippetGauge.Proofs.TokenLines
import SnippetGauge.Proofs.TokenShapes
import SnippetGauge.Proofs.TokenSource
import SnippetGauge.Proofs.TopLevelLines
import SnippetGauge.Proofs.TrackedLines
import SnippetGauge.Proofs.TrimmedLines
import SnippetGauge.Proofs.TwinRequests
import SnippetGauge.Proofs.UntouchedTexts
import SnippetGauge.Proofs.WrappedSource
import SnippetGauge.Proofs.WrittenJson
import SnippetGauge.Proofs.WrittenScalars
import SnippetGauge.Record
import SnippetGauge.Report
import SnippetGauge.Scalar
import SnippetGauge.Service.AnalyzeRequest
import SnippetGauge.Service.App
import SnippetGauge.Service.Body
import SnippetGauge.Service.ByteRange
import SnippetGauge.Service.Cors
import SnippetGauge.Service.Endpoint
import SnippetGauge.Service.Message
import SnippetGauge.Service.Route
import SnippetGauge.Service.SizeLimit
import SnippetGauge.Service.Telemetry
import SnippetGauge.Settings
import SnippetGauge.Settings.EnvFile
import SnippetGauge.Text.Integer
import SnippetGauge.Text.LetterCase
import SnippetGauge.Text.Line
import SnippetGauge.Text.Mark
import SnippetGauge.Text.Pattern
import SnippetGauge.Text.Printable
import SnippetGauge.Text.Search
import SnippetGauge.Text.Word
import SnippetGauge.Text.Wrap
import SnippetGauge.Token
import SnippetGauge.Violation
