import Sidecar.Value.Literal

/-!
What can be wrong with a document, and the report on it.
-/

namespace Sidecar.Schema

/-- One way in which a value does not have the type asked for. -/
inductive Problem where
  | missing
  | notText
  | notUnicode
  | notList
  | notObject
  | notModel (name : String)
  | notInteger
  | integerText
  | integerSize
  | fractional
  | notFinite
  | notTruthValue
  | truthValueText
  | notOneOf (choices : List String)
  | keyNotText
  deriving DecidableEq, Repr

namespace Problem

def code : Problem → String
  | .missing => "missing"
  | .notText => "string_type"
  | .notUnicode => "string_unicode"
  | .notList => "list_type"
  | .notObject => "dict_type"
  | .notModel _ => "model_type"
  | .notInteger => "int_type"
  | .integerText => "int_parsing"
  | .integerSize => "int_parsing_size"
  | .fractional => "int_from_float"
  | .notFinite => "finite_number"
  | .notTruthValue => "bool_type"
  | .truthValueText => "bool_parsing"
  | .notOneOf _ => "enum"
  | .keyNotText => "invalid_key"

private def alternatives : List String → String
  | [] => ""
  | [a] => "'" ++ a ++ "'"
  | [a, b] => "'" ++ a ++ "' or '" ++ b ++ "'"
  | a :: rest => "'" ++ a ++ "', " ++ alternatives rest

def message : Problem → String
  | .missing => "Field required"
  | .notText => "Input should be a valid string"
  | .notUnicode => "Input should be a valid string, unable to parse raw data as a unicode string"
  | .notList => "Input should be a valid list"
  | .notObject => "Input should be a valid dictionary"
  | .notModel name => "Input should be a valid dictionary or instance of " ++ name
  | .notInteger => "Input should be a valid integer"
  | .integerText => "Input should be a valid integer, unable to parse string as an integer"
  | .integerSize => "Unable to parse input string as an integer, exceeded maximum size"
  | .fractional => "Input should be a valid integer, got a number with a fractional part"
  | .notFinite => "Input should be a finite number"
  | .notTruthValue => "Input should be a valid boolean"
  | .truthValueText => "Input should be a valid boolean, unable to interpret input"
  | .notOneOf choices => "Input should be " ++ alternatives choices
  | .keyNotText => "Keys should be strings"

end Problem

/-- A step from a value into one of its parts. -/
inductive Step where
  | entry (key : Value)
  | item (index : Nat)
  /-- The key itself, not the value under it. -/
  | key
  deriving DecidableEq, Repr

private def stepName (text : String) : String :=
  if text.toList.contains '.' then "`" ++ text ++ "`" else text

/-- Integers of 64 bits with a sign lie below this, and not below its negative. -/
def wordBound : Int := 0x8000000000000000

def fitsWord (n : Int) : Bool := -wordBound ≤ n && n < wordBound

def Step.text : Step → String
  | .entry (.str s) => stepName s
  | .entry (.bool b) => if b then "1" else "0"
  | .entry k => stepName (Literal.ofValue k)
  | .item index => toString index
  | .key => "[key]"

structure Issue where
  path : List Step
  problem : Problem
  input : Value
  deriving DecidableEq, Repr

def Issue.within (step : Step) (issue : Issue) : Issue := { issue with path := step :: issue.path }

def Issue.text (issue : Issue) : String :=
  let place := if issue.path.isEmpty then "" else ".".intercalate (issue.path.map Step.text) ++ "\n"
  place ++ "  " ++ issue.problem.message ++ " [type=" ++ issue.problem.code
    ++ ", input_value=" ++ Literal.shortened (Literal.ofValue issue.input)
    ++ ", input_type=" ++ issue.input.kindName ++ "]\n"
    ++ "    For further information visit https://errors.pydantic.dev/2.14/v/" ++ issue.problem.code

/-- All that is wrong with one document, in reading order. -/
structure Report where
  model : String
  issues : List Issue
  deriving DecidableEq, Repr

def Report.text (report : Report) : String :=
  let count := report.issues.length
  toString count ++ " validation error" ++ (if count = 1 then "" else "s") ++ " for " ++ report.model
    ++ "\n" ++ "\n".intercalate (report.issues.map Issue.text)

end Sidecar.Schema
