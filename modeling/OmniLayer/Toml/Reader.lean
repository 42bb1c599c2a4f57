import OmniLayer.Toml.Document
import OmniLayer.Toml.Quoted
import OmniLayer.Toml.Scalar

/-! # Reading TOML

A text is read as statements, one to a line at most, and the statements as a document. Lists may
span lines and hold comments; tables within a line may not. -/

namespace OmniLayer.Toml

/-- A **reader** takes what it needs off the front of a text, or fails. -/
abbrev Reader (α : Type) := StateT (List Char) Option α

/-- The number of lists and tables that may enclose a value, and of keys in a dotted key. -/
def maxDepth : Nat := 79

/-- Whether a character may stand in a comment. -/
def isCommentChar (c : Char) : Bool := !isControl c

/-- Whether a character may stand in a key without quotes. -/
def isKeyChar (c : Char) : Bool := c.isAlphanum || c == '_' || c == '-'

/-- Takes one given character. -/
def char (expected : Char) : Reader Unit
  | c :: rest => if c = expected then some ((), rest) else none
  | [] => none

/-- The next character, which stays. -/
def peek : Reader (Option Char) := fun cs => some (cs.head?, cs)

/-- Drops blanks. -/
def blanks : Reader Unit := modify (·.dropWhile isBlank)

/-- Drops a comment, if one stands here. -/
def comment : Reader Unit := do
  if (← peek) = some '#' then modify (·.dropWhile isCommentChar)

/-- Takes a newline or the end of the text. -/
def newlineOrEnd : Reader Unit
  | [] => some ((), [])
  | '\n' :: rest => some ((), rest)
  | '\r' :: '\n' :: rest => some ((), rest)
  | _ => none

/-- Takes the **end of a line** with a comment in front. -/
def lineEnd : Reader Unit := do blanks; comment; newlineOrEnd

/-- Drops blanks, newlines and whole comments. -/
def skipLines : (inComment : Bool) → List Char → Option (List Char)
  | inComment, [] => if inComment then none else some []
  | _, '\n' :: rest => skipLines false rest
  | _, '\r' :: '\n' :: rest => skipLines false rest
  | true, c :: rest => if isCommentChar c then skipLines true rest else none
  | false, c :: rest =>
    if isBlank c then skipLines false rest
    else if c = '#' then skipLines true rest
    else if c = '\r' then none
    else some (c :: rest)

/-- Drops blanks, newlines and comments between the members of a list. -/
def betweenMembers : Reader Unit := fun cs => (skipLines false cs).map fun rest => ((), rest)

/-- A **key** without dots. -/
def simpleKey : Reader String
  | '"' :: rest => (basic? rest).map fun (text, rest) => (String.ofList text, rest)
  | '\'' :: rest => (literal? rest).map fun (text, rest) => (String.ofList text, rest)
  | cs =>
    match cs.takeWhile isKeyChar with
    | [] => none
    | key => some (String.ofList key, cs.dropWhile isKeyChar)

/-- The keys behind the first of a dotted key. -/
def moreKeys : (fuel : Nat) → Reader (List String)
  | 0 => failure
  | fuel + 1 => do
    blanks
    if (← peek) = some '.' then
      char '.'
      blanks
      let key ← simpleKey
      let keys ← moreKeys fuel
      return key :: keys
    else return []

/-- A **dotted key**: the tables it passes through and its last part. -/
def dottedKey : Reader (List String × String) := do
  blanks
  let first ← simpleKey
  let keys ← moreKeys maxDepth
  match (first :: keys).getLast? with
  | some last => return ((first :: keys).dropLast, last)
  | none => failure

/-- The members of a list, up to its closing bracket. -/
def members (value : Reader Value) : (fuel : Nat) → Reader (List Value)
  | 0 => failure
  | fuel + 1 => do
    betweenMembers
    if (← peek) = some ']' then
      char ']'
      return []
    else
      let first ← value
      betweenMembers
      if (← peek) = some ',' then
        char ','
        let rest ← members value fuel
        return first :: rest
      else
        char ']'
        return [first]

/-- A key and its value. -/
def assignment (value : Reader Value) : Reader (List String × String × Value) := do
  let (path, key) ← dottedKey
  char '='
  blanks
  let value ← value
  blanks
  return (path, key, value)

/-- The assignments of a table within a line behind the first, up to its closing brace. -/
def moreAssignments (value : Reader Value) :
    (fuel : Nat) → Reader (List (List String × String × Value))
  | 0 => failure
  | fuel + 1 => do
    if (← peek) = some ',' then
      char ','
      let first ← assignment value
      let rest ← moreAssignments value fuel
      return first :: rest
    else
      char '\x7d'
      return []

/-- The assignments of a table within a line. -/
def assignments (value : Reader Value) : Reader (List (List String × String × Value)) := do
  blanks
  if (← peek) = some '\x7d' then
    char '\x7d'
    return []
  else
    let first ← assignment value
    let rest ← moreAssignments value (← get).length
    return first :: rest

/-- The table of some assignments. -/
def tableOf (pairs : List (List String × String × Value)) : Option Value := do
  let entries ← pairs.foldlM (fun entries (path, key, value) =>
    Entries.assign? path key value entries) ([] : Entries)
  return .table (Entries.toFields entries)

/-- A value that is one word. -/
def word : Reader Value := fun cs => do
  let (word, rest) := splitWord cs
  let value ← scalar? word
  return (value, rest)

/-- A **value** with at most `depth` lists and tables inside each other. -/
def value : (depth : Nat) → Reader Value
  | 0 => do
    match ← peek with
    | some '"' => return .string (← quoted?)
    | some '\'' => return .string (← quoted?)
    | _ => word
  | depth + 1 => do
    match ← peek with
    | some '"' => return .string (← quoted?)
    | some '\'' => return .string (← quoted?)
    | some '[' =>
      char '['
      return .array (← members (value depth) (← get).length)
    | some '\x7b' =>
      char '\x7b'
      let pairs ← assignments (value depth)
      let table ← tableOf pairs
      return table
    | _ => word

/-- The **header** of a table or of a member of a list of tables. -/
def header : Reader Statement := do
  char '['
  if (← peek) = some '[' then
    char '['
    let (path, key) ← dottedKey
    char ']'
    char ']'
    return .openMember path key
  else
    let (path, key) ← dottedKey
    char ']'
    return .openTable path key

/-- The statement of a **line**, if it has one. -/
def line : Reader (Option Statement) := do
  blanks
  let statement ← match ← peek with
    | none => pure none
    | some '#' => pure none
    | some '\n' => pure none
    | some '\r' => pure none
    | some '[' => some <$> header
    | some _ => do
      let (path, key, value) ← assignment (value maxDepth)
      pure (some (.assign path key value))
  lineEnd
  return statement

/-- The statements of all lines. -/
def lines : (fuel : Nat) → Reader (List Statement)
  | 0 => return []
  | fuel + 1 => do
    if (← get).isEmpty then return []
    else
      let statement ← line
      let rest ← lines fuel
      return statement.toList ++ rest

/-- Drops the mark of the byte order at the start of a text. -/
def dropByteOrderMark : List Char → List Char
  | '\uFEFF' :: rest => rest
  | cs => cs

/-- Reads a **document**. -/
def fieldsOfText? (text : String) : Option (List (String × Value)) := do
  let cs := dropByteOrderMark text.toList
  let (statements, rest) ← (lines cs.length).run cs
  if rest.isEmpty then fieldsOf? statements else none

end OmniLayer.Toml
