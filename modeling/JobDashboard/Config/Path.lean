import JobDashboard.Config.Value

/-!
# Places inside configured values

A dotted name leads step by step into a value. Putting a value at a place makes the tables and lists
on the way, and takes away whatever stands there and is neither. Tables are merged entry by entry;
any other value replaces what was there, so the source that is read last wins.
-/

namespace JobDashboard.Config

/-- A step into a value: an entry of a table, or an item of a list, counted from its end when
negative. -/
inductive Step where
  | key (name : String)
  | index (position : Int)
deriving DecidableEq

abbrev Path := List Step

namespace Path

def isNameChar (c : Char) : Bool := c.isAlphanum || c == '_' || c == '-'

/-- A name in front, with at least one character. -/
def name? (cs : List Char) : Option (String × List Char) :=
  let name := cs.takeWhile isNameChar
  if name.isEmpty then none else some (.ofList name, cs.dropWhile isNameChar)

/-- The position between brackets and what follows the closing one. -/
def position? (cs : List Char) : Option (Int × List Char) :=
  match cs.dropWhile (· != ']') with
  | [] => none
  | _ :: rest =>
    let blank := fun c => c == ' ' || c == '\t'
    let inside := (cs.takeWhile (· != ']')).dropWhile blank
    let number := (inside.reverse.dropWhile blank).reverse
    if number.head? == some '+' then none
    else (Text.integer? Int64.minValue.toInt Int64.maxValue.toInt number).map (·, rest)

/-- The steps after the first, for at most `fuel` of them. -/
def steps? : Nat → List Char → Option Path
  | _, [] => some []
  | 0, _ :: _ => none
  | fuel + 1, '.' :: cs => do
    let (name, rest) ← name? cs
    return .key name :: (← steps? fuel rest)
  | fuel + 1, '[' :: cs => do
    let (position, rest) ← position? cs
    return .index position :: (← steps? fuel rest)
  | _ + 1, _ :: _ => none

/-- The path that a key spells. A key that spells none is one name as it stands. -/
def ofKey (key : String) : Path :=
  let path? : Option Path := do
    let (name, rest) ← name? key.toList
    return .key name :: (← steps? rest.length rest)
  path?.getD [.key key]

end Path

namespace Value

/-- Changes the entry of a name, which starts out as null if there is none. -/
def alterEntry (name : String) (change : Value → Value) :
    List (String × Value) → List (String × Value)
  | [] => [(name, change .null)]
  | (k, v) :: rest =>
    if k = name then (k, change v) :: rest else (k, v) :: alterEntry name change rest

/-- Changes the item at a position. A list that is too short is filled up with nulls, at the front
when the position counts from the end. -/
def alterItem (position : Int) (change : Value → Value) (items : List Value) : List Value :=
  if 0 ≤ position then
    let missing := position.toNat + 1 - items.length
    (items ++ List.replicate missing Value.null).modify position.toNat change
  else
    let back := position.natAbs
    (List.replicate (back - items.length) Value.null ++ items).modify (items.length - back) change

/-- Changes what stands at a path. -/
def alter (change : Value → Value) : Path → Value → Value
  | [], v => change v
  | .key name :: path, v => .table (alterEntry name (alter change path) v.entries)
  | .index position :: path, v => .list (alterItem position (alter change path) v.items)

mutual

/-- What stands at a place after a value is put there. -/
def overlay : Value → Value → Value
  | .table incoming, v => .table (overlayEntries incoming v.entries)
  | incoming, _ => incoming

def overlayEntries : List (String × Value) → List (String × Value) → List (String × Value)
  | [], entries => entries
  | (name, incoming) :: rest, entries =>
    overlayEntries rest (alterEntry name (overlay incoming) entries)

end

/-- Puts a value at a path. -/
def put (v : Value) (path : Path) (incoming : Value) : Value := alter (overlay incoming) path v

end Value

end JobDashboard.Config
