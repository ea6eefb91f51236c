import Sidecar.Value.Literal
import Sidecar.Yaml.Cursor

/-!
Why a text is not read as documents.
-/

namespace Sidecar.Yaml

/-- What makes a scalar with a fitting form no value. -/
inductive ScalarFault where
  | notInteger (base : Nat) (text : String)
  | tooManyDigits (count : Nat)
  | notFloat (text : String)
  | floatOverflow
  | empty
  | notTruthValue (word : String)
  | notTimestamp
  | time (error : TimeError)
  | codePoint
  | codePointOverflow
  deriving DecidableEq, Repr

inductive Fault where
  /-- The bytes or characters are none of a text. -/
  | encoding
  /-- No token can be read. -/
  | token (mark : Mark)
  /-- The tokens do not form a document. -/
  | grammar (mark : Mark)
  /-- An anchor is unknown or given twice. -/
  | anchor (mark : Mark)
  /-- The node does not hold what its tag asks for. -/
  | content (mark : Mark)
  | scalar (fault : ScalarFault)
  /-- A text has a surrogate in it, which no `Char` is. -/
  | surrogate (mark : Mark)
  /-- A node contains itself, which no `Value` does. -/
  | recursive (mark : Mark)
  deriving DecidableEq, Repr

/-- The text may well be one of documents, but not of ones that a `Value` can stand for. -/
def Fault.isUnrepresented : Fault → Bool
  | .surrogate _ | .recursive _ => true
  | _ => false

/-- At most `limit` characters of a text. -/
private def cut (limit : Nat) (s : String) : String := String.ofList (s.toList.take limit)

def ScalarFault.message : ScalarFault → String
  | .notInteger base text =>
    "invalid literal for int() with base " ++ toString base ++ ": " ++ cut 200 (Literal.quoted text)
  | .tooManyDigits count => "Exceeds the limit (" ++ toString Literal.digitLimit
      ++ " digits) for integer string conversion: value has " ++ toString count
      ++ " digits; use sys.set_int_max_str_digits() to increase the limit"
  | .notFloat text => "could not convert string to float: " ++ Literal.quoted text
  | .floatOverflow => "int too large to convert to float"
  | .empty => "string index out of range"
  | .notTruthValue word => Literal.quoted word
  | .notTimestamp => "'NoneType' object has no attribute 'groupdict'"
  | .time (.year year) => "year " ++ toString year ++ " is out of range"
  | .time .month => "month must be in 1..12"
  | .time .day => "day is out of range for month"
  | .time .hour => "hour must be in 0..23"
  | .time .minute => "minute must be in 0..59"
  | .time .second => "second must be in 0..59"
  | .time (.offset seconds) =>
    "offset must be a timedelta strictly between -timedelta(hours=24) and timedelta(hours=24), not "
      ++ Literal.duration seconds ++ "."
  | .codePoint => "chr() arg not in range(0x110000)"
  | .codePointOverflow => "Python int too large to convert to C int"

/-- Where a text stops being one of documents, and why. -/
def Fault.message : Fault → String
  | .encoding => "the text holds bytes or characters that are not allowed"
  | .token mark => place mark ++ "no token can be read"
  | .grammar mark => place mark ++ "the token does not fit here"
  | .anchor mark => place mark ++ "the anchor is unknown or not new"
  | .content mark => place mark ++ "the node does not fit its tag or place"
  | .scalar fault => fault.message
  | .surrogate mark => place mark ++ "a surrogate is no character"
  | .recursive mark => place mark ++ "the node contains itself"
where
  place (mark : Mark) : String :=
    "line " ++ toString (mark.line + 1) ++ ", column " ++ toString (mark.column + 1) ++ ": "

end Sidecar.Yaml
