import SnippetGauge.Options
import SnippetGauge.Text.Wrap

set_option autoImplicit false

namespace SnippetGauge

open Text

def OptionSpec.withArgument (spec : OptionSpec) (name : String) : String :=
  match spec.arity with
  | .value metavar _ => name ++ " " ++ metavar
  | _ => name

def OptionSpec.usage (spec : OptionSpec) : String :=
  "[" ++ spec.withArgument (spec.names.headD "") ++ "]"

def OptionSpec.heading (spec : OptionSpec) : String :=
  ", ".intercalate (spec.names.map spec.withArgument)

namespace Options

def lineWidth : Nat := 78

def usage (program : ProgramSpec) : String :=
  "usage: " ++ " ".intercalate (program.name :: program.options.map OptionSpec.usage ++
    (program.operand.map (·.name)).toList) ++ "\n"

abbrev Entry := String × String

def operandEntries (program : ProgramSpec) : List Entry :=
  (program.operand.map fun operand => (operand.name, operand.help)).toList

def optionEntries (program : ProgramSpec) : List Entry :=
  program.options.map fun spec => (spec.heading, spec.help)

def helpColumn (program : ProgramSpec) : Nat :=
  ((operandEntries program ++ optionEntries program).map (·.1.length)).foldl max 0 + 4

def spaces (n : Nat) : Text := List.replicate n ' '

def helpLines (column : Nat) (entry : Entry) : List Text :=
  let heading := spaces 2 ++ entry.1.toList
  match wrap (lineWidth - column) (trim (collapseBlanks entry.2.toList)) with
  | [] => [heading]
  | first :: later =>
    (heading ++ spaces (column - heading.length) ++ first) :: later.map (spaces column ++ ·)

def helpSection (column : Nat) (title : String) (entries : List Entry) : Text :=
  if entries.isEmpty then []
  else '\n' :: title.toList ++ ":\n".toList ++
    (entries.flatMap (helpLines column)).flatMap (· ++ ['\n'])

def help (program : ProgramSpec) : Text :=
  let column := helpColumn program
  (usage program).toList ++ '\n' :: program.description.toList ++ ['\n'] ++
    helpSection column "positional arguments" (operandEntries program) ++
    helpSection column "options" (optionEntries program)

def failure (program : ProgramSpec) (error : OptionError) : Text :=
  (usage program).toList ++ (program.name ++ ": error: ").toList ++ error.message ++ ['\n']

end Options

end SnippetGauge
