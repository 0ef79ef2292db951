/-!
Values and tables. How a table came about decides how it may still grow: one written in braces is
closed, one opened by a header takes keys of its own section only, one that a longer header mentions may
be opened later, and one made by a dotted key takes further dotted keys.
-/

namespace QueryLexer.Toml

inductive Origin where
  | braces | header | mentioned | dotted
  deriving DecidableEq, Repr

inductive Value where
  | text (content : String)
  | boolean (flag : Bool)
  | number
  | moment
  | array (items : List Value)
  | table (origin : Origin) (entries : List (String × Value))
  /-- Tables that are opened one after the other under one header. -/
  | tables (members : List (List (String × Value)))
  deriving Repr

abbrev Entries := List (String × Value)

namespace Entries

def get? (entries : Entries) (key : String) : Option Value := List.lookup key entries

def set (key : String) (value : Value) : Entries → Entries
  | [] => [(key, value)]
  | entry :: rest => if entry.1 == key then (key, value) :: rest else entry :: set key value rest

def add? (key : String) (value : Value) (entries : Entries) : Option Entries :=
  if (get? entries key).isSome then none else some (set key value entries)

def assign? (key : String) (value : Value) : (path : List String) → Entries → Option Entries
  | [], entries => add? key value entries
  | part :: rest, entries =>
      match get? entries part with
      | none => do
          let inner ← assign? key value rest []
          return set part (.table .dotted inner) entries
      | some (.table .dotted inner) => do
          let grown ← assign? key value rest inner
          return set part (.table .dotted grown) entries
      | some (.table .mentioned inner) => do
          if rest.isEmpty then none
          let grown ← assign? key value rest inner
          return set part (.table .mentioned grown) entries
      | some (.tables members) => do
          if rest.isEmpty then none
          let grown ← assign? key value rest (← members.getLast?)
          return set part (.tables (members.dropLast ++ [grown])) entries
      | some _ => none

/-- Changes the table that a header's parts lead to. Tables on the way that are not there yet are made. -/
def under? (change : Entries → Option Entries) : (path : List String) → Entries → Option Entries
  | [], entries => change entries
  | part :: rest, entries =>
      match get? entries part with
      | none => do
          let inner ← under? change rest []
          return set part (.table .mentioned inner) entries
      | some (.table .braces _) => none
      | some (.table origin inner) => do
          let grown ← under? change rest inner
          return set part (.table origin grown) entries
      | some (.tables members) => do
          let grown ← under? change rest (← members.getLast?)
          return set part (.tables (members.dropLast ++ [grown])) entries
      | some _ => none

/-- Opens a table under a key that is new, or that longer headers have mentioned. -/
def open? (key : String) (entries : Entries) : Option Entries :=
  match get? entries key with
  | none => some (set key (.table .header []) entries)
  | some (.table .mentioned inner) => some (set key (.table .header inner) entries)
  | some _ => none

def openNext? (key : String) (entries : Entries) : Option Entries :=
  match get? entries key with
  | none => some (set key (.tables [[]]) entries)
  | some (.tables members) => some (set key (.tables (members ++ [[]])) entries)
  | some _ => none

end Entries

end QueryLexer.Toml
