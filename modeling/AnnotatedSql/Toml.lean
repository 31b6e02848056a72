/-!
Values of TOML documents, and how the parts of a document come together in tables.
-/
namespace AnnotatedSql

/-- How a table came into being. It decides whether later lines may add to it. -/
inductive Toml.TableForm where
  /-- By a header of its own. -/
  | header
  /-- By the header of a table inside it. -/
  | implied
  /-- By a dotted key. -/
  | dotted
  /-- Between braces. -/
  | inline
deriving Repr, DecidableEq

inductive Toml where
  | string (text : String)
  | integer (value : Int)
  | float (text : String)
  | boolean (value : Bool)
  /-- A date, a time of day, or both. -/
  | time (text : String)
  | array (items : List Toml)
  | table (form : Toml.TableForm) (entries : List (String × Toml))
  /-- The tables under one header in double brackets. -/
  | tables (items : List (List (String × Toml)))
deriving Repr, Inhabited

namespace Toml

/-- The entries of a table. -/
abbrev Entries := List (String × Toml)

/-- Puts a value in the place of the one under a key, or at the end. -/
def Entries.put (entries : Entries) (key : String) (value : Toml) : Entries :=
  if entries.any (·.1 == key) then entries.map fun entry => if entry.1 == key then (key, value) else entry
  else entries ++ [(key, value)]

/-- Changes the table at the end of a path. Missing tables are made; in a list of tables, the last one is meant. A
    dotted key does not reach into tables with headers, and nothing reaches into tables between braces. -/
def Entries.descend (dotted : Bool) (change : TableForm → Entries → Option Entries) :
    List String → TableForm → Entries → Option Entries
  | [], form, entries => change form entries
  | key :: path, _, entries =>
    match entries.lookup key with
    | none =>
      let form := if dotted then .dotted else .implied
      (descend dotted change path form []).map fun inner => entries.put key (.table form inner)
    | some (.table .inline _) => none
    | some (.table form inner) =>
      if dotted && form == .header then none
      else (descend dotted change path form inner).map fun inner => entries.put key (.table form inner)
    | some (.tables items) =>
      match items.getLast? with
      | none => none
      | some last =>
        (descend dotted change path .header last).map fun inner => entries.put key (.tables (items.dropLast ++ [inner]))
    | some _ => none

/-- Gives a new value to a dotted key. A key has one value, and a table that a header implies takes no dotted keys. -/
def Entries.assign? (entries : Entries) (path : List String) (key : String) (value : Toml) : Option Entries :=
  entries.descend true (fun form inner =>
    if (!path.isEmpty && form != .dotted) || inner.any (·.1 == key) then none else some (inner.put key value))
    path .header

/-- Opens the table of a header. A table has one header. -/
def Entries.openTable? (entries : Entries) (path : List String) (key : String) : Option Entries :=
  entries.descend false (fun _ inner =>
    match inner.lookup key with
    | none => some (inner.put key (.table .header []))
    | some (.table .implied present) => some (inner.put key (.table .header present))
    | some _ => none)
    path .header

/-- Adds a table to the list of a header in double brackets. -/
def Entries.appendTable? (entries : Entries) (path : List String) (key : String) : Option Entries :=
  entries.descend false (fun _ inner =>
    match inner.lookup key with
    | none => some (inner.put key (.tables [[]]))
    | some (.tables items) => some (inner.put key (.tables (items ++ [[]])))
    | some _ => none)
    path .header

end Toml

end AnnotatedSql
