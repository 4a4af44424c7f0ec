import SnippetGauge.Complexity.Estimate
import SnippetGauge.Detection
import SnippetGauge.Json.Value
import SnippetGauge.Lint
import SnippetGauge.Token

set_option autoImplicit false

namespace SnippetGauge

structure Analysis where
  language : Language
  findings : List Finding
  complexity : ComplexityReport
  tokens : List Token
  deriving DecidableEq, Repr

def Analysis.tokenCount (analysis : Analysis) : Nat := analysis.tokens.length

def analyzeAs (code : Text) (language : Language) : Analysis where
  language := language
  findings := lint code language
  complexity := estimate code language
  tokens := tokenize code language

def analyze (code : Text) (hint : Option Language) : Analysis :=
  analyzeAs code (hint.getD (detect code))

def Json.text (text : Text) : Json := .str (String.ofList text)

def Finding.toJson (finding : Finding) : Json :=
  .obj [("line", .int finding.line), ("message", .str finding.message),
    ("suggestion", .str finding.suggestion)]

def Token.toJson (token : Token) : Json :=
  .obj [("value", .text token.value), ("line", .int token.line),
    ("category", .str token.category.name)]

def ComplexityReport.toJson (report : ComplexityReport) : Json :=
  .obj [("complexity", .str report.complexity), ("explanation", .str report.explanation)]

def Analysis.toJson (analysis : Analysis) (withTokens : Bool) : Json :=
  .obj ([("language", .str analysis.language.name),
      ("findings", .arr (analysis.findings.map Finding.toJson)),
      ("complexity", analysis.complexity.toJson)] ++
    (if withTokens then [("tokens", .arr (analysis.tokens.map Token.toJson))] else []) ++
    [("token_count", .int analysis.tokenCount)])

end SnippetGauge
