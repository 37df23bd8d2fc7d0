/-
This file holds tables from names to values that keep the order of their entries.
-/

import Flourish.Text.Basic

namespace Flourish

/-- A table is its entries in order; no two entries have one name. -/
abbrev Table (Value : Type) := List (Text × Value)

namespace Table

variable {Value : Type}

def find? (table : Table Value) (name : Text) : Option Value :=
  table.lookup name

def contains (table : Table Value) (name : Text) : Bool :=
  (table.lookup name).isSome

def names (table : Table Value) : List Text :=
  table.map Prod.fst

/-- A name that is there keeps its place and takes the new value; a new name goes to the end. -/
def insert (table : Table Value) (name : Text) (value : Value) : Table Value :=
  match table with
  | [] => [(name, value)]
  | (other, old) :: rest =>
      if other = name then (other, value) :: rest else (other, old) :: insert rest name value

/-- A name that is there keeps its value; a new name goes to the end. -/
def insertNew (table : Table Value) (name : Text) (value : Value) : Table Value :=
  if table.contains name then table else table ++ [(name, value)]

/-- The table with those of the given entries, in order, whose names are not there yet. -/
def insertAllNew (table : Table Value) (entries : List (Text × Value)) : Table Value :=
  entries.foldl (fun found entry => found.insertNew entry.1 entry.2) table

/-- The table with all the given entries put in, in order. -/
def insertAll (table : Table Value) (entries : List (Text × Value)) : Table Value :=
  entries.foldl (fun found entry => found.insert entry.1 entry.2) table

def ofEntries (entries : List (Text × Value)) : Table Value :=
  insertAll [] entries

end Table
end Flourish
