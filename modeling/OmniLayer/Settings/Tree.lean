import OmniLayer.Text.Decimal
import OmniLayer.Text.Utf8
import OmniLayer.Toml.Value

/-! # Setting trees

Settings are gathered in a tree, source by source. Writing a table merges it with what is there; any
other value replaces what is there, and whatever stands in the way of a path gives way to it. Keys
have no case. -/

namespace OmniLayer

/-- A **setting**: a value, or a list or table of settings. -/
inductive Setting where
  /-- A place that was passed over. -/
  | missing
  /-- A truth value. -/
  | boolean (value : Bool)
  /-- An integer. -/
  | integer (value : Int)
  /-- A floating-point number. -/
  | float (value : Binary64)
  /-- A text. -/
  | text (value : String)
  /-- A list of settings. -/
  | list (items : List Setting)
  /-- A table of settings. -/
  | table (fields : List (String × Setting))

namespace Setting

/-- The fields of a table; any other setting has none. -/
def fields : Setting → List (String × Setting)
  | .table fields => fields
  | _ => []

/-- The members of a list; any other setting has none. -/
def items : Setting → List Setting
  | .list items => items
  | _ => []

/-- The setting under a key. -/
def find? (key : String) : List (String × Setting) → Option Setting
  | [] => none
  | (k, value) :: rest => if k = key then some value else find? key rest

/-- Writes a setting under a key, in the place of the one that was there. -/
def put (key : String) (value : Setting) : List (String × Setting) → List (String × Setting)
  | [] => [(key, value)]
  | (k, old) :: rest => if k = key then (k, value) :: rest else (k, old) :: put key value rest

mutual

/-- Writes a setting under a key of a tree, **merging** tables. -/
def assign (key : String) : (value : Setting) → (tree : Setting) → Setting
  | .table incoming, tree =>
    let target := (find? (Text.lower key) tree.fields).getD (.table [])
    .table (put (Text.lower key) (assignAll incoming target) tree.fields)
  | value, tree => .table (put (Text.lower key) value tree.fields)

/-- Writes settings under their keys of a tree, in turn. -/
def assignAll : (incoming : List (String × Setting)) → (tree : Setting) → Setting
  | [], tree => tree
  | (key, value) :: rest, tree => assignAll rest (assign key value tree)

end

/-- A **step** of a path. -/
inductive Step where
  /-- Into a table. -/
  | key (name : String)
  /-- Into a list; negative indices count from the end. -/
  | index (index : Int)
  deriving DecidableEq, Repr

/-- The place that an index means in a list of some length. -/
def place (index : Int) (length : Nat) : Nat :=
  if index < 0 then (length + index).toNat else index.toNat

/-- Changes the member at a place, making the list long enough first. -/
def changeItem (index : Int) (change : Setting → Setting) (items : List Setting) : List Setting :=
  let place := place index items.length
  let padded := items ++ List.replicate (place + 1 - items.length) missing
  padded.modify place change

/-- Writes a setting at the end of a **path** through a tree. -/
def assignAt (value : Setting) : List Step → (tree : Setting) → Setting
  | [], _ => value
  | [.key name], tree => assign name value tree
  | .key name :: path, tree =>
    let inner := (find? (Text.lower name) tree.fields).getD missing
    .table (put (Text.lower name) (assignAt value path inner) tree.fields)
  | .index index :: path, tree => .list (changeItem index (assignAt value path) tree.items)

end Setting

namespace SettingPath

open Setting

/-- Whether a character may stand in a name. -/
def isNameChar (c : Char) : Bool := c.isAlphanum || c == ' ' || c == '_' || c == '-'

/-- Whether a character is a blank around an index. -/
def isBlank (c : Char) : Bool := c == ' ' || c == '\t'

/-- Splits a name off. -/
def name? (cs : List Char) : Option (String × List Char) :=
  match cs.takeWhile isNameChar with
  | [] => none
  | name => some (String.ofList name, cs.dropWhile isNameChar)

/-- Reads an index between blanks. -/
def index? (cs : List Char) : Option Int :=
  let cs := ((cs.dropWhile isBlank).reverse.dropWhile isBlank).reverse
  if cs.head? = some '+' then none else Decimal.int? Decimal.lowInt64 Decimal.highInt64 cs

/-- Reads the steps behind the first name. -/
def steps? : (fuel : Nat) → List Char → Option (List Step)
  | _, [] => some []
  | 0, _ => none
  | fuel + 1, '.' :: rest => do
    let (name, rest) ← name? rest
    let steps ← steps? fuel rest
    return .key name :: steps
  | fuel + 1, '[' :: rest => do
    let index ← index? (rest.takeWhile (· != ']'))
    let steps ← steps? fuel ((rest.dropWhile (· != ']')).drop 1)
    if rest.contains ']' then some (.index index :: steps) else none
  | _, _ => none

/-- The **path** that a key means: names with dots between them and indices in brackets. A key of
another form is one name. -/
def ofKey (key : String) : List Step :=
  let steps := do
    let (name, rest) ← name? key.toList
    let steps ← steps? rest.length rest
    return Step.key name :: steps
  steps.getD [.key key]

end SettingPath

mutual

/-- The setting that a TOML value gives; dates and times give their text. -/
def Setting.ofToml : Toml.Value → Setting
  | .string s => .text s
  | .integer n => .integer n
  | .float x => .float x
  | .boolean b => .boolean b
  | .datetime s => .text s
  | .array items => .list (Setting.ofTomlItems items)
  | .table fields => .table (Setting.ofTomlFields fields)

/-- The settings that TOML values give. -/
def Setting.ofTomlItems : List Toml.Value → List Setting
  | [] => []
  | item :: rest => Setting.ofToml item :: Setting.ofTomlItems rest

/-- The settings that the fields of a TOML table give. -/
def Setting.ofTomlFields : List (String × Toml.Value) → List (String × Setting)
  | [] => []
  | (key, value) :: rest => (key, Setting.ofToml value) :: Setting.ofTomlFields rest

end

end OmniLayer
