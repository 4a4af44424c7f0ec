import SnippetGauge.Report
import SnippetGauge.Scalar

set_option autoImplicit false

namespace SnippetGauge

open Checked Scalar

abbrev Members := List (String × Json)

def Members.required {α : Type} (members : Members) (name : String) (check : Json → Checked α) :
    Checked α :=
  toField name (fail .missing) check (Json.member? members name)

def Members.optional {α : Type} (members : Members) (name : String) (absent : α)
    (check : Json → Checked α) : Checked α :=
  toField name (.ok absent) check (Json.member? members name)

def ofObject {α : Type} (check : Members → Checked α) : Json → Checked α
  | .obj members => check members
  | _ => fail .modelType

def Token.ofMembers (members : Members) : Checked Token :=
  (both (members.required "value" readString) <|
    both (members.required "line" readPositive) <|
      members.required "category" (readName TokenCategory.ofName?)).map
    fun (value, line, category) => ⟨value.toList, line, category⟩

def Finding.ofMembers (members : Members) : Checked Finding :=
  (both (members.required "line" readPositive) <|
    both (members.required "message" readString) <|
      members.required "suggestion" readString).map
    fun (line, message, suggestion) => ⟨line, message, suggestion⟩

def ComplexityReport.ofMembers (members : Members) : Checked ComplexityReport :=
  (both (members.required "complexity" readString) <|
    members.required "explanation" readString).map
    fun (complexity, explanation) => ⟨complexity, explanation⟩

def Analysis.ofMembers (members : Members) : Checked Analysis :=
  (both (members.required "language" (readName Language.ofName?)) <|
    both (members.optional "findings" [] (readList (ofObject Finding.ofMembers))) <|
      both (members.required "complexity" (ofObject ComplexityReport.ofMembers)) <|
        members.optional "tokens" [] (readList (ofObject Token.ofMembers))).map
    fun (language, findings, complexity, tokens) => ⟨language, findings, complexity, tokens⟩

end SnippetGauge
