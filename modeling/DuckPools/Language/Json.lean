import DuckPools.Codec.Hex
import Mathlib.Data.Rat.Floor

/-!
# JSON values in Python

The values that `json.loads` returns, and what the backend does with them: `get` of a
dictionary, truth, and the comparison with a time. A number is a rational or one of the
three words `NaN`, `Infinity` and `-Infinity`. `none` is the exception that Python raises
where a value has the wrong type.
-/

namespace DuckPools

inductive Json
  | null
  | bool (b : Bool)
  | number (q : ℚ)
  | nan
  | infinity (negative : Bool)
  | string (s : Text)
  | array (items : List Json)
  | object (fields : List (Text × Json))

namespace Json

/-- `v.get(key, default)` -/
def get (v : Json) (key : Text) (default : Json) : Option Json :=
  match v with
  | object fields => some ((fields.lookup key).getD default)
  | _ => none

/-- `v[key]` of a dictionary with text keys. -/
def item (v : Json) (key : Text) : Option Json :=
  match v with
  | object fields => fields.lookup key
  | _ => none

/-- `bool(v)` -/
def truthy : Json → Bool
  | null => false
  | bool b => b
  | number q => q ≠ 0
  | nan => true
  | infinity _ => true
  | string s => !s.isEmpty
  | array items => !items.isEmpty
  | object fields => !fields.isEmpty

/-- `v < time` -/
def lessThan (v : Json) (time : ℚ) : Option Bool :=
  match v with
  | bool b => some (decide ((if b then 1 else 0) < time))
  | number q => some (decide (q < time))
  | nan => some false
  | infinity negative => some negative
  | _ => none

end Json
end DuckPools
