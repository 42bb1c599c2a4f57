import OmniLayer.Toml.Scalar

/-! # TOML documents

A document is a list of statements, each of which adds a value or opens a table. The tables remember
what made them, because a table may be reopened only in some of the ways: by a header if it was only
passed through, by a dotted key if no header made it. -/

namespace OmniLayer.Toml

/-- A **statement** of a document. -/
inductive Statement where
  /-- A value under a key, behind the tables that the key passes through. -/
  | assign (path : List String) (key : String) (value : Value)
  /-- The header of a table. -/
  | openTable (path : List String) (key : String)
  /-- The header of a new member of a list of tables. -/
  | openMember (path : List String) (key : String)

/-- What **made** a table. -/
inductive Origin where
  /-- Its own header. -/
  | header
  /-- The header of a table inside it. -/
  | passage
  /-- A dotted key. -/
  | dotted
  deriving DecidableEq, Repr

/-- What stands under a key while a document is read. -/
inductive Entry where
  /-- A value. -/
  | value (value : Value)
  /-- A table that may still grow. -/
  | table (origin : Origin) (entries : List (String × Entry))
  /-- A list of tables, the last of which may still grow. -/
  | members (tables : List (List (String × Entry)))

/-- The keys of a table with what stands under them. -/
abbrev Entries := List (String × Entry)

namespace Entries

/-- Changes what stands under a key, or adds the key at the end. -/
def change? (key : String) (change : Option Entry → Option Entry) : Entries → Option Entries
  | [] => (change none).map fun entry => [(key, entry)]
  | (k, entry) :: rest =>
    if k = key then (change (some entry)).map fun entry => (k, entry) :: rest
    else (change? key change rest).map ((k, entry) :: ·)

/-- Carries out an action on the table at the end of a path, making the tables that are missing. A
**dotted** path does not pass through tables with headers; no path passes through a value. -/
def atPath? (dotted : Bool) (action : Origin → Entries → Option Entries) :
    List String → Origin → Entries → Option Entries
  | [], origin, entries => action origin entries
  | key :: path, _, entries =>
    entries.change? key fun
      | none =>
        let origin := if dotted then Origin.dotted else Origin.passage
        (atPath? dotted action path origin []).map (Entry.table origin)
      | some (.value _) => none
      | some (.table origin inner) =>
        if dotted ∧ origin = .header then none
        else (atPath? dotted action path origin inner).map (Entry.table origin)
      | some (.members tables) =>
        (atPath? dotted action path .header (tables.getLast?.getD [])).map fun inner =>
          Entry.members (tables.dropLast ++ [inner])

/-- Adds a value under a new key. A key behind a path adds to tables made by dotted keys only, a key
alone to other tables only. -/
def assign? (path : List String) (key : String) (value : Value) : Entries → Option Entries :=
  atPath? true (fun origin entries =>
    if (origin = .dotted) = (path = []) then none
    else entries.change? key fun
      | none => some (.value value)
      | some _ => none) path .header

/-- Opens a table: a new one, or one that was only passed through and now moves to the end. -/
def openTable? (key : String) (entries : Entries) : Option Entries :=
  match entries.find? fun entry => entry.1 == key with
  | none => some (entries ++ [(key, .table .header [])])
  | some (_, .table .passage inner) =>
    some ((entries.filter fun entry => entry.1 != key) ++ [(key, .table .header inner)])
  | some _ => none

/-- Opens a new member of a list of tables. -/
def openMember? (key : String) (entries : Entries) : Option Entries :=
  entries.change? key fun
    | none => some (.members [[]])
    | some (.members tables) => some (.members (tables ++ [[]]))
    | some _ => none

end Entries

mutual

/-- The **value** that an entry stands for. -/
def Entry.toValue : Entry → Value
  | .value value => value
  | .table _ entries => .table (Entries.toFields entries)
  | .members tables => .array (Entries.toTables tables)

/-- The values of a table's entries. -/
def Entries.toFields : List (String × Entry) → List (String × Value)
  | [] => []
  | (key, entry) :: rest => (key, entry.toValue) :: Entries.toFields rest

/-- The values of a list of tables. -/
def Entries.toTables : List (List (String × Entry)) → List Value
  | [] => []
  | table :: rest => .table (Entries.toFields table) :: Entries.toTables rest

end

/-- The key of a table that stands for a **date or time**: a table with this key in front is the
date or time that the text under it spells, whatever else it holds. -/
def dateKey : String := "$__toml_private_datetime"

/-- The date or time that the value under the date key spells. -/
def dateOf? : Value → Option Value
  | .string text => (datetime? .quoted text.toList).map fun cs => .datetime (String.ofList cs)
  | _ => none

mutual

/-- A value in which tables that stand for a date or time are replaced by it. -/
def Value.dated? : Value → Option Value
  | .array items => (Value.datedItems? items).map Value.array
  | .table [] => some (.table [])
  | .table ((key, value) :: rest) =>
    if key = dateKey then dateOf? value
    else do
      let first ← value.dated?
      let others ← Value.datedFields? rest
      return .table ((key, first) :: others)
  | value => some value

/-- The same in the members of a list. -/
def Value.datedItems? : List Value → Option (List Value)
  | [] => some []
  | item :: rest => do
    let first ← item.dated?
    let others ← Value.datedItems? rest
    return first :: others

/-- The same in the fields of a table. -/
def Value.datedFields? : List (String × Value) → Option (List (String × Value))
  | [] => some []
  | (key, value) :: rest => do
    let first ← value.dated?
    let others ← Value.datedFields? rest
    return (key, first) :: others

end

/-- A document while it is read: all entries, and the path of the table that is open. -/
structure Draft where
  /-- The entries of the whole document. -/
  entries : Entries
  /-- The path of the open table. -/
  openPath : List String

/-- Adds a **statement** to a draft. -/
def Draft.add? (draft : Draft) : Statement → Option Draft
  | .assign path key value => do
    let entries ← draft.entries.atPath? false (fun _ => Entries.assign? path key value)
      draft.openPath .header
    return { draft with entries := entries }
  | .openTable path key => do
    let entries ← draft.entries.atPath? false (fun _ => Entries.openTable? key) path .header
    return ⟨entries, path ++ [key]⟩
  | .openMember path key => do
    let entries ← draft.entries.atPath? false (fun _ => Entries.openMember? key) path .header
    return ⟨entries, path ++ [key]⟩

/-- The fields of the **document** with some statements, if they agree with each other and the whole
does not stand for a date. -/
def fieldsOf? (statements : List Statement) : Option (List (String × Value)) := do
  let draft ← statements.foldlM Draft.add? ⟨[], []⟩
  match ← (Value.table (Entries.toFields draft.entries)).dated? with
  | .table fields => some fields
  | _ => none

end OmniLayer.Toml
