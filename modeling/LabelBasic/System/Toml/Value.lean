import LabelBasic.Text.Basic

namespace LabelBasic.Toml

inductive Origin
  | header
  | implied
  | dotted
  | inline
deriving DecidableEq, Repr

inductive Value
  | switch (b : Bool)
  | text (t : Text)
  | literal (spelling : Text)
  | array (items : List Value)
  | table (origin : Origin) (entries : List (Text × Value))
  | tables (items : List (List (Text × Value)))

abbrev Entries := List (Text × Value)

namespace Entries

def put (entries : Entries) (key : Text) (value : Value) : Entries :=
  match entries with
  | [] => [(key, value)]
  | (k, v) :: rest => if k = key then (key, value) :: rest else (k, v) :: put rest key value

def add? (key : Text) (value : Value) (entries : Entries) : Option Entries :=
  match entries.lookup key with
  | none => some (entries ++ [(key, value)])
  | some _ => none

/-- Changes the table that a path of keys leads to. Tables that are missing on the way are made
with origin `made`, those that are there have to satisfy `enter`, and of an array of tables the
last one is entered, if any may be. -/
def edit (made : Origin) (enter : Origin → Bool) (enterArrays : Bool)
    (change : Entries → Option Entries) : List Text → Entries → Option Entries
  | [], entries => change entries
  | key :: path, entries =>
    match entries.lookup key with
    | none => do
      return entries.put key (.table made (← edit made enter enterArrays change path []))
    | some (.table origin inner) =>
      if enter origin then do
        return entries.put key
          (.table origin (← edit made enter enterArrays change path inner))
      else none
    | some (.tables items) =>
      match enterArrays, items.getLast? with
      | true, some last => do
        let last' ← edit made enter enterArrays change path last
        return entries.put key (.tables (items.dropLast ++ [last']))
      | _, _ => none
    | some _ => none

def editHeader (change : Entries → Option Entries) : List Text → Entries → Option Entries :=
  edit .implied (· != .inline) true change

def addDotted? (path : List Text) (key : Text) (value : Value) : Entries → Option Entries :=
  edit .dotted (· == .dotted) false (add? key value) path

/-- Makes the table of a header. It may have been implied before, but not made. -/
def openTable? (key : Text) (entries : Entries) : Option Entries :=
  match entries.lookup key with
  | none => some (entries.put key (.table .header []))
  | some (.table .implied inner) => some (entries.put key (.table .header inner))
  | some _ => none

def openArrayTable? (key : Text) (entries : Entries) : Option Entries :=
  match entries.lookup key with
  | none => some (entries.put key (.tables [[]]))
  | some (.tables items) => some (entries.put key (.tables (items ++ [[]])))
  | some _ => none

end Entries

end LabelBasic.Toml
