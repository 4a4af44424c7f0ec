import SnippetGauge.Command.Analyze
import SnippetGauge.Settings

set_option autoImplicit false

namespace SnippetGauge.Command

open Text

structure Launch where
  host : Option Text
  port : Option Int
  reload : Bool
  logLevel : Text
  deriving DecidableEq, Repr

namespace Serve

def program (settings : Settings) : ProgramSpec where
  name := "codescope-server"
  description := "Run the Codescope HTTP API under uvicorn."
  options := [⟨["-h", "--help"], .help, "show this help message and exit"⟩,
    ⟨["--host"], .value "HOST" .text, "interface to bind (default: " ++ settings.host ++ ")"⟩,
    ⟨["--port"], .value "PORT" .int,
      "port to listen on (default: " ++ toString settings.port ++ ")"⟩]
  operand := none

def launch (settings : Settings) (progress : Options.Progress) : Launch where
  host :=
    match progress.last? "--host" with
    | some taken => taken.argument
    | none => some settings.host.toList
  port :=
    match progress.last? "--port" with
    | some taken => taken.argument.bind integer?
    | none => some settings.port
  reload := settings.debug
  logLevel := lower settings.logLevel.name.toList

def run (settings : Settings) (arguments : List Text) : Exit × Option Launch :=
  match Options.parse (program settings) arguments with
  | .help => (⟨some 0, Options.help (program settings), []⟩, none)
  | .failed error => (⟨some 2, [], Options.failure (program settings) error⟩, none)
  | .parsed progress => (⟨none, [], []⟩, some (launch settings progress))

end Serve

end SnippetGauge.Command
