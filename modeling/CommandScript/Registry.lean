import CommandScript.Text.Blank

/-!
# The property registry

An ordered dictionary keeps its keys in the order of their first insertion; a
later insertion of a key replaces the value in place. The registry is an ordered
dictionary of tables, and a table one of values. No operation removes a key.
-/

namespace CommandScript

/-- Values by key, in the order in which the keys were first inserted. -/
structure Ordered (α : Type) where
  entries : List (Text × α)
  deriving Repr

namespace Ordered

variable {α : Type}

instance [DecidableEq α] : DecidableEq (Ordered α) := fun a b =>
  decidable_of_iff (a.entries = b.entries) ⟨fun h => by cases a; cases b; simp_all, congrArg _⟩

def empty : Ordered α := ⟨[]⟩

instance : EmptyCollection (Ordered α) := ⟨empty⟩

def keys (d : Ordered α) : List Text := d.entries.map (·.1)

def find? (d : Ordered α) (key : Text) : Option α :=
  (d.entries.find? (·.1 = key)).map (·.2)

def contains (d : Ordered α) (key : Text) : Bool := (d.find? key).isSome

def insertEntry (key : Text) (value : α) : List (Text × α) → List (Text × α)
  | [] => [(key, value)]
  | (k, v) :: rest => if k = key then (k, value) :: rest else (k, v) :: insertEntry key value rest

/-- Replaces the value of a known key in place, appends a new key. -/
def insert (d : Ordered α) (key : Text) (value : α) : Ordered α :=
  ⟨insertEntry key value d.entries⟩

def insertAll (d : Ordered α) (entries : List (Text × α)) : Ordered α :=
  entries.foldl (fun d entry => d.insert entry.1 entry.2) d

def ofList (entries : List (Text × α)) : Ordered α := insertAll empty entries

def size (d : Ordered α) : Nat := d.entries.length

end Ordered

abbrev Table := Ordered Text

/-- Tables by label. -/
abbrev Registry := Ordered Table

def globalsLabel : Text := "GLOBAL.VARIABLES".toList

def environmentLabel : Text := "System.env".toList

namespace Registry

def ensure (r : Registry) (label : Text) : Registry :=
  if r.contains label then r else r.insert label ∅

def table (r : Registry) (label : Text) : Table := (r.find? label).getD ∅

/-- Sets one value of the table of a label, which is created if need be. -/
def put (r : Registry) (label key value : Text) : Registry :=
  r.insert label ((r.table label).insert key value)

/-- The tables in order, without some labels. -/
def without (r : Registry) (labels : List Text) : List (Text × Table) :=
  r.entries.filter fun entry => !labels.contains entry.1

/-- Loads values into the table of a label: the keys it has keep their places,
and only the given ones change. -/
def merge (r : Registry) (label : Text) (values : Table) : Registry :=
  r.insert label ((r.table label).insertAll values.entries)

/-- The value of a key in the first table, in registry order, that defines it. -/
def lookup (r : Registry) (key : Text) : Option Text :=
  r.entries.findSome? (·.2.find? key)

/-- A registry with an empty table of script variables. -/
def withGlobals : Registry := ensure ∅ globalsLabel

/-- Adds the environment variables once. -/
def withEnvironment (r : Registry) (environment : Table) : Registry :=
  if r.contains environmentLabel then r else r.insert environmentLabel environment

end Registry
end CommandScript
