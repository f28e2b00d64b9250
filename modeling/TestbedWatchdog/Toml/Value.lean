import TestbedWatchdog.Decimal.Shortest

namespace TestbedWatchdog.Toml

inductive Real where
  -- digits * 10 ^ exponent, as written
  | finite (negative : Bool) (digits : Nat) (exponent : Int)
  | infinity (negative : Bool)
  | nan
deriving DecidableEq

def Real.text : Real → String
  | .finite negative digits exponent =>
    (if negative then "-" else "") ++ ((Decimal.nearest? digits exponent).map (·.text)).getD "inf"
  | .infinity negative => if negative then "-inf" else "inf"
  | .nan => "NaN"

inductive Value where
  | text (content : String)
  | integer (number : Int)
  | real (number : Real)
  | boolean (flag : Bool)
  -- a date, a time or both; no field of ours holds one, so only that it is one is kept
  | moment
  | array (items : List Value)
  | table (fields : List (String × Value))

abbrev Fields := List (String × Value)

end TestbedWatchdog.Toml
