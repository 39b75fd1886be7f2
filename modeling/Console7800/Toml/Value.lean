/-!
# TOML values and tables

A table remembers how it came about, since that decides what may still be added to it: an inline
table is closed, one opened by a header takes no dotted keys from outside, one that only stands in
the path of another header may be opened once, and one made by dotted keys takes further dotted
keys.
-/

namespace Console7800.Toml

abbrev Key := List Char

inductive Origin where
  | inline | header | parent | dotted
  deriving Repr, DecidableEq

inductive Value where
  | string (text : List Char)
  | integer (value : Int)
  | boolean (value : Bool)
  /-- A number that is no integer. -/
  | float
  | datetime
  | array (items : List Value)
  | table (origin : Origin) (entries : List (Key × Value))
  /-- Tables opened one after the other by headers of one name. -/
  | tables (items : List (List (Key × Value)))

/-- The keys of a table with their values, in the order in which they were first given. -/
abbrev Entries := List (Key × Value)

namespace Entries

/-- Give a key that is there another value. -/
def replace (key : Key) (value : Value) (entries : Entries) : Entries :=
  entries.map fun entry => if entry.1 = key then (key, value) else entry

/-- Change the last of several tables, the first of which is there. -/
def mapLast (f : Entries → Option Entries) : List Entries → Option (List Entries)
  | [] => none
  | [last] => (f last).map fun entries => [entries]
  | first :: rest => (mapLast f rest).map fun rest => first :: rest

/-- Change the table that a header's path leads to, making those on the way that are missing. -/
def within (f : Entries → Option Entries) : List Key → Entries → Option Entries
  | [], entries => f entries
  | key :: path, entries =>
    match entries.lookup key with
    | none => (within f path []).map fun inner => entries ++ [(key, .table .parent inner)]
    | some (.table .inline _) => none
    | some (.table origin inner) =>
      (within f path inner).map fun inner => entries.replace key (.table origin inner)
    | some (.tables items) =>
      (mapLast (within f path) items).map fun items => entries.replace key (.tables items)
    | some _ => none

/-- Open a table by its header. -/
def openTable (key : Key) (entries : Entries) : Option Entries :=
  match entries.lookup key with
  | none => some (entries ++ [(key, .table .header [])])
  | some (.table .parent inner) =>
    some (entries.filter (·.1 ≠ key) ++ [(key, .table .header inner)])
  | some _ => none

/-- Open one more table of several of one name. -/
def openNext (key : Key) (entries : Entries) : Option Entries :=
  match entries.lookup key with
  | none => some (entries ++ [(key, .tables [[]])])
  | some (.tables items) => some (entries.replace key (.tables (items ++ [[]])))
  | some _ => none

/-- Give a new key behind a dotted path its value. The table that takes it is the one at hand, if
`takes` says so, or one made by dotted keys. -/
def insert (key : Key) (value : Value) : List Key → Bool → Entries → Option Entries
  | [], takes, entries =>
    if takes ∧ (entries.lookup key).isNone then some (entries ++ [(key, value)]) else none
  | step :: path, _, entries =>
    match entries.lookup step with
    | none =>
      (insert key value path true []).map fun inner => entries ++ [(step, .table .dotted inner)]
    | some (.table .dotted inner) =>
      (insert key value path true inner).map fun inner =>
        entries.replace step (.table .dotted inner)
    | some (.table .parent inner) =>
      (insert key value path false inner).map fun inner =>
        entries.replace step (.table .parent inner)
    | some (.tables items) =>
      (mapLast (insert key value path false) items).map fun items =>
        entries.replace step (.tables items)
    | some _ => none

end Entries
end Console7800.Toml
