import SnippetGauge.Text.Integer
import SnippetGauge.Text.Printable
import SnippetGauge.Text.Search
import SnippetGauge.Text.Word

set_option autoImplicit false

namespace SnippetGauge

open Text

inductive ValueKind where
  | text
  | int
  deriving DecidableEq, Repr

inductive Arity where
  | help
  | flag
  | value (metavar : String) (kind : ValueKind)
  deriving DecidableEq, Repr

structure OptionSpec where
  names : List String
  arity : Arity
  help : String
  deriving DecidableEq, Repr

def OptionSpec.shown (spec : OptionSpec) : String := "/".intercalate spec.names

structure OperandSpec where
  name : String
  help : String
  deriving DecidableEq, Repr

structure ProgramSpec where
  name : String
  description : String
  options : List OptionSpec
  operand : Option OperandSpec

namespace Options

inductive OptionError where
  | ambiguous (written : Text) (candidates : List String)
  | expectedArgument (spec : OptionSpec)
  | ignoredArgument (spec : OptionSpec) (argument : Text)
  | invalidInteger (spec : OptionSpec) (argument : Text)
  | missingOperand (operand : OperandSpec)
  | unrecognized (arguments : List Text)

def OptionError.message : OptionError → Text
  | ambiguous written candidates =>
    "ambiguous option: ".toList ++ written ++ (" could match " ++ ", ".intercalate candidates).toList
  | expectedArgument spec => ("argument " ++ spec.shown ++ ": expected one argument").toList
  | ignoredArgument spec argument =>
    ("argument " ++ spec.shown ++ ": ignored explicit argument ").toList ++ quoted argument
  | invalidInteger spec argument =>
    ("argument " ++ spec.shown ++ ": invalid int value: ").toList ++ quoted argument
  | missingOperand operand => ("the following arguments are required: " ++ operand.name).toList
  | unrecognized arguments => "unrecognized arguments: ".toList ++ [' '].intercalate arguments

/-- An option as it is written; its argument may be `attached` to it in the same word. -/
structure Match where
  spec : OptionSpec
  name : String
  attached : Option Text

inductive Item where
  | operand (text : Text)
  | divider
  | option (written : Text) (found : Option Match)

abbrev Named := String × OptionSpec

def named (program : ProgramSpec) : List Named :=
  program.options.flatMap fun spec => spec.names.map (·, spec)

def lookup? (program : ProgramSpec) (written : Text) : Option Named :=
  (named program).find? (·.1.toList == written)

/-- A long option may be cut short as long as it stays the only one. -/
def longMatches (program : ProgramSpec) (written : Text) : List Match :=
  let (start, argument) := splitAtFirst '=' written
  ((named program).filter fun (name, _) => startsWith start name.toList).map fun (name, spec) =>
    ⟨spec, name, argument⟩

def shortMatches (program : ProgramSpec) (written : Text) : List Match :=
  (named program).filterMap fun (name, spec) =>
    if name.toList == written.take 2 then some ⟨spec, name, some (written.drop 2)⟩
    else if startsWith written name.toList then some ⟨spec, name, none⟩
    else none

def isDecimalDigit (c : Char) : Bool := (digitValue? c).isSome

/-- Digits after a minus sign, with at most one point in front of the last of them. -/
def looksNegative (written : Text) : Bool :=
  let written := if written.getLast? == some '\n' then written.dropLast else written
  match written with
  | '-' :: body =>
    let whole := body.takeWhile isDecimalDigit
    match body.drop whole.length with
    | [] => !whole.isEmpty
    | '.' :: places => !places.isEmpty && places.all isDecimalDigit
    | _ => false
  | _ => false

def candidates (program : ProgramSpec) (written : Text) : List Match :=
  if startsWith ['-', '-'] written then longMatches program written
  else shortMatches program written

def classifyOption (program : ProgramSpec) (written : Text) : Except OptionError Item :=
  match lookup? program written with
  | some (name, spec) => .ok (.option written (some ⟨spec, name, none⟩))
  | none =>
    let (start, argument) := splitAtFirst '=' written
    match argument, lookup? program start with
    | some argument, some (name, spec) =>
      .ok (.option written (some ⟨spec, name, some argument⟩))
    | _, _ =>
      match candidates program written with
      | [found] => .ok (.option written (some found))
      | [] =>
        -- No option is a number or has a blank in it.
        if looksNegative written || written.contains ' ' then .ok (.operand written)
        else .ok (.option written none)
      | several => .error (.ambiguous written (several.map (·.name)))

def classify (program : ProgramSpec) (written : Text) : Except OptionError Item :=
  if startsWith ['-'] written && 1 < written.length then classifyOption program written
  else .ok (.operand written)

def items (program : ProgramSpec) : List Text → Except OptionError (List Item)
  | [] => .ok []
  | written :: later =>
    if written == ['-', '-'] then .ok (.divider :: later.map .operand)
    else do
      let item ← classify program written
      let rest ← items program later
      return item :: rest

structure Taken where
  spec : OptionSpec
  argument : Option Text

structure Progress where
  operand : Option Text
  taken : List Taken
  extras : List Text

inductive Outcome where
  | help
  | failed (error : OptionError)
  | parsed (progress : Progress)

inductive Stop where
  | help
  | failed (error : OptionError)

def takesArgument (spec : OptionSpec) : Bool :=
  match spec.arity with
  | .value .. => true
  | _ => false

def isShortName (name : String) : Bool := (name.toList.drop 1).head? != some '-'

structure Unpacked where
  taken : List Taken
  pending : Option OptionSpec

def Unpacked.cons (taken : Taken) (rest : Unpacked) : Unpacked :=
  { rest with taken := taken :: rest.taken }

def attachedArgument? (text : Text) : Option Text :=
  if text == ['-', '-'] then none else some text

def unpackJoined (program : ProgramSpec) (spec : OptionSpec) :
    Text → Except OptionError Unpacked
  | [] =>
    if takesArgument spec then .ok ⟨[], some spec⟩
    else .ok ⟨[⟨spec, none⟩], none⟩
  | letter :: rest =>
    if takesArgument spec then .ok ⟨[⟨spec, attachedArgument? (letter :: rest)⟩], none⟩
    else
      match lookup? program ['-', letter] with
      | some (_, next) => (unpackJoined program next rest).map (.cons ⟨spec, none⟩)
      | none => .error (.ignoredArgument spec (letter :: rest))

def unpack (program : ProgramSpec) (found : Match) : Except OptionError Unpacked :=
  match found.attached with
  | none => unpackJoined program found.spec []
  | some argument =>
    if takesArgument found.spec then
      .ok ⟨[⟨found.spec, attachedArgument? argument⟩], none⟩
    else if isShortName found.name && !argument.isEmpty then
      unpackJoined program found.spec argument
    else .error (.ignoredArgument found.spec argument)

def take (progress : Progress) : List Taken → Except Stop Progress
  | [] => .ok progress
  | next :: later =>
    match next.spec.arity, next.argument with
    | .help, _ => .error .help
    | .value _ .int, some argument =>
      if (integer? argument).isSome then
        take { progress with taken := progress.taken ++ [next] } later
      else .error (.failed (.invalidInteger next.spec argument))
    | _, _ => take { progress with taken := progress.taken ++ [next] } later

def Progress.extra (progress : Progress) (text : Text) : Progress :=
  { progress with extras := progress.extras ++ [text] }

def Progress.accepts (progress : Progress) (program : ProgramSpec) : Bool :=
  program.operand.isSome && progress.operand.isNone

def operandTexts (rest : List Item) : List Text :=
  rest.map fun item =>
    match item with
    | .operand text => text
    | .divider => ['-', '-']
    | .option written _ => written

def addExtras (progress : Progress) (rest : List Item) : Progress :=
  { progress with extras := progress.extras ++ operandTexts rest }

def read (program : ProgramSpec) : Progress → List Item → Except Stop Progress
  | progress, [] => .ok progress
  | progress, .operand text :: .divider :: later =>
    if progress.accepts program then
      .ok (addExtras { progress with operand := some text } later)
    else .ok (addExtras progress (.operand text :: .divider :: later))
  | progress, .operand text :: later =>
    if progress.accepts program then read program { progress with operand := some text } later
    else read program (progress.extra text) later
  | progress, .divider :: .operand text :: later =>
    if progress.accepts program then
      .ok (addExtras { progress with operand := some text } later)
    else .ok (addExtras progress (.divider :: .operand text :: later))
  | progress, .divider :: later => .ok (addExtras progress (.divider :: later))
  | progress, .option written none :: later => read program (progress.extra written) later
  | progress, .option _ (some found) :: later =>
    match unpack program found with
    | .error error => .error (.failed error)
    | .ok ⟨taken, none⟩ =>
      match take progress taken with
      | .error stop => .error stop
      | .ok next => read program next later
    | .ok ⟨taken, some spec⟩ =>
      match later with
      -- The next word is the argument only if it is no option itself.
      | .operand argument :: rest =>
        match take progress (taken ++ [⟨spec, some argument⟩]) with
        | .error stop => .error stop
        | .ok next => read program next rest
      | _ => .error (.failed (.expectedArgument spec))

def parse (program : ProgramSpec) (arguments : List Text) : Outcome :=
  match items program arguments with
  | .error error => .failed error
  | .ok found =>
    match read program ⟨none, [], []⟩ found with
    | .error .help => .help
    | .error (.failed error) => .failed error
    | .ok progress =>
      match program.operand, progress.operand, progress.extras with
      | some operand, none, _ => .failed (.missingOperand operand)
      | _, _, [] => .parsed progress
      | _, _, extras => .failed (.unrecognized extras)

def Progress.has (progress : Progress) (name : String) : Bool :=
  progress.taken.any (·.spec.names.contains name)

def Progress.last? (progress : Progress) (name : String) : Option Taken :=
  progress.taken.reverse.find? (·.spec.names.contains name)

end Options

end SnippetGauge
