import JobDashboard.Config.Path

/-!
# What a TOML text defines

Every table and value of a text at its place, in the order in which they appear. A value is given
once. A table is opened by a header once, even if tables inside it were opened before; keys with
points make tables of their own, which they alone may extend; and a header with double brackets adds
one more table to a list, where later headers then lead. These rules are told by how a table came
about.
-/

namespace JobDashboard.Toml

open Config (Path Step)

/-- How a table came about: by a header of its own, by one of a table inside it, or by a key with
points. -/
inductive Origin where
  | header
  | inner
  | dotted
deriving DecidableEq

/-- What stands at a place: a value, a table, or a list of so many tables. -/
inductive Definition where
  | value (value : Config.Value)
  | table (origin : Origin)
  | tables (count : Nat)

abbrev Outline := List (Path × Definition)

namespace Outline

def lookup (o : Outline) (place : Path) : Option Definition :=
  (o.find? fun entry => entry.1 == place).map (·.2)

/-- Says what stands at a place. -/
def define (place : Path) (d : Definition) : Outline → Outline
  | [] => [(place, d)]
  | entry :: rest =>
    if entry.1 = place then (place, d) :: rest else entry :: define place d rest

/-- The table under a key, which is made if there is none. Of a list of tables it is the last. A key
with points does not lead into a table that has a header. -/
def enter? (origin : Origin) (place : Path) (key : String) (o : Outline) :
    Option (Path × Outline) :=
  let inside := place ++ [.key key]
  match o.lookup inside with
  | none => some (inside, o.define inside (.table origin))
  | some (.value _) => none
  | some (.tables count) => some (inside ++ [.index (count - 1)], o)
  | some (.table found) =>
    if origin = .dotted ∧ found = .header then none else some (inside, o)

/-- The table that keys lead to, one after the other. -/
def descend? (origin : Origin) (place : Path) (keys : List String) (o : Outline) :
    Option (Path × Outline) :=
  keys.foldlM (fun (place, o) key => enter? origin place key o) (place, o)

/-- Gives a value to a key with or without points, inside the table at a place. -/
def assign? (place : Path) (keys : List String) (v : Config.Value) (o : Outline) :
    Option Outline := do
  let last ← keys.getLast?
  let (inside, o) ← descend? .dotted place keys.dropLast o
  let extendable := match o.lookup inside with
    | some (.table .dotted) => true
    | _ => keys.length == 1
  match extendable, o.lookup (inside ++ [.key last]) with
  | true, none => some (o.define (inside ++ [.key last]) (.value v))
  | _, _ => none

/-- Opens the table of a header, and says where it stands. -/
def openTable? (keys : List String) (o : Outline) : Option (Path × Outline) := do
  let last ← keys.getLast?
  let (parent, o) ← descend? .inner [] keys.dropLast o
  let place := parent ++ [.key last]
  match o.lookup place with
  | none | some (.table .inner) => some (place, o.define place (.table .header))
  | _ => none

/-- Opens one more table of a list, and says where it stands. -/
def openItem? (keys : List String) (o : Outline) : Option (Path × Outline) := do
  let last ← keys.getLast?
  let (parent, o) ← descend? .inner [] keys.dropLast o
  let place := parent ++ [.key last]
  match o.lookup place with
  | none => some (place ++ [.index 0], o.define place (.tables 1))
  | some (.tables count) =>
    some (place ++ [.index count], o.define place (.tables (count + 1)))
  | _ => none

/-- One definition put at its place. -/
def build (v : Config.Value) (entry : Path × Definition) : Config.Value :=
  match entry with
  | (place, .value w) => v.put place w
  | (place, .table _) => v.put place (.table [])
  | (place, .tables count) => v.put place (.list (List.replicate count (.table [])))

/-- The table with everything at its place. -/
def toValue (o : Outline) : Config.Value := o.foldl build (.table [])

end Outline

end JobDashboard.Toml
