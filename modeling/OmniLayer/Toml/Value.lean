import OmniLayer.Binary64

/-! # TOML values

The values of a TOML document. A date or time is kept as its normal text. -/

namespace OmniLayer.Toml

/-- A **value**. -/
inductive Value where
  /-- A text. -/
  | string (value : String)
  /-- A signed 64-bit integer. -/
  | integer (value : Int)
  /-- A floating-point number. -/
  | float (value : Binary64)
  /-- A truth value. -/
  | boolean (value : Bool)
  /-- A date, a time, or both. -/
  | datetime (value : String)
  /-- A list of values. -/
  | array (items : List Value)
  /-- A table of values. -/
  | table (fields : List (String × Value))

end OmniLayer.Toml
