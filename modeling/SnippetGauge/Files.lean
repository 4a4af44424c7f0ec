import SnippetGauge.Encoding
import SnippetGauge.Text.Search

set_option autoImplicit false

namespace SnippetGauge

open Text Encoding

inductive FileEntry where
  | absent
  | blocked
  | directory
  | file (content : Bytes)
  deriving DecidableEq, Repr

abbrev Files := Text → FileEntry

namespace Files

def isHere (name : Text) : Bool := name.isEmpty || name == ['.']

def names (path : Text) : List Text := (splitOn '/' path).filter (!isHere ·)

def entryAt (known : List (Text × Bytes)) (place : List Text) : FileEntry :=
  match known.find? fun (name, _) => names name == place with
  | some (_, content) => .file content
  | none =>
    if place.isEmpty || known.any fun (name, _) => place.isPrefixOf (names name) then .directory
    else .absent

/-- Of the directories around this one nothing is known but that they are there. -/
def outside (names : List Text) : FileEntry :=
  if names.all fun name => isHere name || name == ['.', '.'] then .directory else .absent

/-- Follows the names of a path; `above` are the directories entered, innermost first. -/
def walk (known : List (Text × Bytes)) : (above : List Text) → List Text → FileEntry
  | above, [] => entryAt known above.reverse
  | above, name :: later =>
    if isHere name then walk known above later
    else if name == ['.', '.'] then
      match above with
      | _ :: outer => walk known outer later
      | [] => outside later
    else
      match entryAt known (name :: above).reverse, later with
      | .directory, _ => walk known (name :: above) later
      | .file _, _ :: _ => .blocked
      | found, _ => found

def ofList (known : List (Text × Bytes)) : Files := fun path =>
  if path.isEmpty then .absent
  else if path.head? == some '/' then outside (splitOn '/' path)
  else walk known [] (splitOn '/' path)

end Files

end SnippetGauge
