import SnippetGauge.Json.Value

set_option autoImplicit false

namespace SnippetGauge

inductive Problem where
  | missing
  | stringType
  | stringTooLong
  | stringUnicode
  | valueError
  | intType
  | intParsing
  | intParsingSize
  | intFromFloat
  | finiteNumber
  | greaterThanEqual
  | enum
  | literalError
  | boolParsing
  | boolType
  | listType
  | modelType
  | modelAttributesType
  | jsonInvalid
  deriving DecidableEq, Repr

def Problem.name : Problem → String
  | missing => "missing"
  | stringType => "string_type"
  | stringTooLong => "string_too_long"
  | stringUnicode => "string_unicode"
  | valueError => "value_error"
  | intType => "int_type"
  | intParsing => "int_parsing"
  | intParsingSize => "int_parsing_size"
  | intFromFloat => "int_from_float"
  | finiteNumber => "finite_number"
  | greaterThanEqual => "greater_than_equal"
  | enum => "enum"
  | literalError => "literal_error"
  | boolParsing => "bool_parsing"
  | boolType => "bool_type"
  | listType => "list_type"
  | modelType => "model_type"
  | modelAttributesType => "model_attributes_type"
  | jsonInvalid => "json_invalid"

inductive Step where
  | field (name : String)
  | index (n : Nat)
  deriving DecidableEq, Repr

structure Violation where
  path : List Step
  problem : Problem
  deriving DecidableEq, Repr

def Step.toJson : Step → Json
  | field name => .str name
  | index n => .int n

def Violation.toJson (violation : Violation) : Json :=
  .obj [("loc", .arr (violation.path.map Step.toJson)), ("type", .str violation.problem.name)]

abbrev Checked (α : Type) := Except (List Violation) α

namespace Checked

variable {α β γ : Type}

def fail (problem : Problem) : Checked α := .error [⟨[], problem⟩]

def under (step : Step) : Checked α → Checked α
  | .ok value => .ok value
  | .error found => .error (found.map fun violation => { violation with path := step :: violation.path })

def both (first : Checked α) (second : Checked β) : Checked (α × β) :=
  match first, second with
  | .ok a, .ok b => .ok (a, b)
  | .ok _, .error found => .error found
  | .error found, .ok _ => .error found
  | .error found, .error more => .error (found ++ more)

theorem both_eq_ok_iff {first : Checked α} {second : Checked β} {value : α × β} :
    both first second = .ok value ↔ first = .ok value.1 ∧ second = .ok value.2 := by
  rcases value with ⟨a, b⟩
  cases first <;> cases second <;> simp [both]

def each (check : α → Checked β) (position : Nat) : List α → Checked (List β)
  | [] => .ok []
  | item :: later =>
    (both ((check item).under (.index position)) (each check (position + 1) later)).map
      fun (first, rest) => first :: rest

def toField (name : String) (absent : Checked β) (check : α → Checked β) : Option α → Checked β
  | none => absent.under (.field name)
  | some value => (check value).under (.field name)

end Checked

end SnippetGauge
