import TestbedWatchdog.Text.Quoted
import TestbedWatchdog.Toml.Value

namespace TestbedWatchdog.Toml

inductive Found where
  | text (content : String)
  | integer (number : Int)
  | real (number : Real)
  | boolean (flag : Bool)
  | sequence
  | map
deriving DecidableEq

def Value.found : Value → Found
  | .text content => .text content
  | .integer number => .integer number
  | .real number => .real number
  | .boolean flag => .boolean flag
  | .array _ => .sequence
  | .moment | .table _ => .map

def Found.message : Found → String
  | .text content => "string " ++ Text.quoted content
  | .integer number => "integer `" ++ toString number ++ "`"
  | .real number => "floating point `" ++ number.text ++ "`"
  | .boolean flag => "boolean `" ++ toString flag ++ "`"
  | .sequence => "sequence"
  | .map => "map"

inductive Expected where
  | word64
  | word32
  | boolean
  | text
  | sequence
  | record (name : String)
deriving DecidableEq

def Expected.message : Expected → String
  | .word64 => "u64"
  | .word32 => "u32"
  | .boolean => "a boolean"
  | .text => "a string"
  | .sequence => "a sequence"
  | .record name => "struct " ++ name

inductive Mismatch where
  | unknownField (name : String) (known : List String)
  | wrongType (found : Found) (expected : Expected)
  | outOfRange (number : Int) (expected : Expected)
deriving DecidableEq

def Mismatch.message : Mismatch → String
  | .unknownField name known =>
    "unknown field `" ++ name ++ "`, expected one of " ++
      ", ".intercalate (known.map fun field => "`" ++ field ++ "`")
  | .wrongType found expected => "invalid type: " ++ found.message ++ ", expected " ++ expected.message
  | .outOfRange number expected =>
    "invalid value: integer `" ++ toString number ++ "`, expected " ++ expected.message

end TestbedWatchdog.Toml
