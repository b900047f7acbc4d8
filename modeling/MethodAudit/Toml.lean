import MethodAudit.KeyedList

/-!
Values of a TOML text, and how its lines build up tables.
-/

namespace MethodAudit

/-- How a table came about: written as a value, under a header of its own, on the way to
another header, or by a dotted key. -/
inductive TableKind
  | inline
  | header
  | implied
  | dotted
  deriving DecidableEq, Repr

inductive Toml
  | text (s : String)
  | bool (b : Bool)
  | number (text : String)
  | moment (text : String)
  | list (items : List Toml)
  | table (kind : TableKind) (entries : List (String × Toml))
  | tables (rows : List (List (String × Toml)))
  deriving Repr

namespace Toml

abbrev Entries := List (String × Toml)

/-- Changes the table at the end of a path, making those on the way that are missing. A table
written as a value is closed, and a dotted key does not enter a table with a header. In a list
of tables the last is meant. -/
def within (dotted : Bool) (change : TableKind → Entries → Option Entries) :
    List String → TableKind → Entries → Option Entries
  | [], kind, es => change kind es
  | key :: path, _, es =>
    match es.lookup key with
    | none => do
      let kind := if dotted then .dotted else .implied
      return assign key (.table kind (← within dotted change path kind [])) es
    | some (.table kind inner) =>
      if kind = .inline || (dotted && kind = .header) then none
      else do return assign key (.table kind (← within dotted change path kind inner)) es
    | some (.tables rows) =>
      match rows.reverse with
      | [] => none
      | last :: before => do
        let last ← within dotted change path .header last
        return assign key (.tables (before.reverse ++ [last])) es
    | some _ => none

/-- Gives a value to a key, which may be dotted; no key gets two. -/
def define (path : List String) (key : String) (v : Toml) (kind : TableKind) (es : Entries) :
    Option Entries :=
  within true (fun kind es =>
    if (kind == .dotted) == path.isEmpty then none
    else if (es.lookup key).isSome then none
    else some (es ++ [(key, v)])) path kind es

/-- Opens the table of a header. -/
def openTable (path : List String) (key : String) (es : Entries) : Option Entries :=
  within false (fun _ es =>
    match es.lookup key with
    | none => some (es ++ [(key, .table .header [])])
    | some (.table .implied inner) => some (assign key (.table .header inner) es)
    | some _ => none) path .header es

/-- Opens the next table of a list of tables. -/
def openRow (path : List String) (key : String) (es : Entries) : Option Entries :=
  within false (fun _ es =>
    match es.lookup key with
    | none => some (es ++ [(key, .tables [[]])])
    | some (.tables rows) => some (assign key (.tables (rows ++ [[]])) es)
    | some _ => none) path .header es

/-- Gives a value to a key below the current header. -/
def defineBelow (header path : List String) (key : String) (v : Toml) (es : Entries) :
    Option Entries :=
  within false (fun kind es => define path key v kind es) header .header es

end Toml

end MethodAudit
