import SnippetGauge.Command.Analyze

set_option autoImplicit false

open SnippetGauge

partial def readAll (stream : IO.FS.Stream) (read : ByteArray) : IO ByteArray := do
  let chunk ← stream.read 65536
  if chunk.isEmpty then return read else readAll stream (read ++ chunk)

def readEntry (name : Text) : IO FileEntry := do
  try
    return .file (← IO.FS.readBinFile (String.ofList name)).data.toList
  catch
    | .noFileOrDirectory .. => return .absent
    -- A path through a file is refused by its name, a directory only once it is read.
    | .inappropriateType (some _) .. => return .blocked
    | .inappropriateType .. => return .directory
    | error => throw error

def readFailureText : Command.ReadFailure → String
  | .notFound => "no such file"
  | .notDirectory => "leads through a file"
  | .isDirectory => "is a directory"
  | .undecodable => "is not UTF-8 text"

def main (arguments : List String) : IO UInt32 := do
  let arguments := arguments.map String.toList
  let name := (Command.Analyze.operand? arguments).getD []
  let (stdin, entry) ←
    if name == ['-'] then
      pure ((← readAll (← IO.getStdin) .empty).data.toList, FileEntry.absent)
    else if name.isEmpty then pure ([], FileEntry.absent)
    else pure ([], ← readEntry name)
  match Command.Analyze.run arguments stdin (fun _ => entry) with
  | .ok result =>
    IO.print (String.ofList result.stdout)
    IO.eprint (String.ofList result.stderr)
    return (result.code.getD 0).toUInt32
  | .error failed =>
    IO.eprintln (String.ofList name ++ ": " ++ readFailureText failed)
    return 1
