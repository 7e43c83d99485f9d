import JobDashboard.Json.Document

/-!
# Typed readers of JSON values

A reader walks a value in document order and stops at the first fault. `malformed` means that the
text is no JSON at that point, `mismatch` that the JSON there is not what was asked for. Readers
look no further than they need: what a record ignores may hold numbers out of range or escapes that
are no text.
-/

namespace JobDashboard.Json

inductive Fault where
  | malformed
  | mismatch
deriving DecidableEq

abbrev Reader (α : Type) := Value → Except Fault α

/-- The text of a string's raw bytes. -/
def text (raw : Bytes) : Except Fault String :=
  match stringText? raw with
  | some s => .ok s
  | none => .error .malformed

/-- What a reader answers that wanted another kind of value. The scalar in its way has been read. -/
def Value.mismatch : Value → Fault
  | .number n => if n.toBinary64.isFinite then .mismatch else .malformed
  | .string raw => if (stringText? raw).isSome then .mismatch else .malformed
  | .broken => .malformed
  | _ => .mismatch

namespace Reader

def string : Reader String
  | .string raw => text raw
  | v => .error v.mismatch

def bool : Reader Bool
  | .bool b => .ok b
  | v => .error v.mismatch

/-- An integer literal within the bounds. -/
def integer (low high : Int) : Reader Int
  | .number n =>
    match n.toInt? with
    | some i => if low ≤ i ∧ i ≤ high then .ok i else .error .mismatch
    | none => .error (Value.number n).mismatch
  | v => .error v.mismatch

def int64 : Reader Int64 := fun v =>
  Int64.ofInt <$> integer Int64.minValue.toInt Int64.maxValue.toInt v

def uint64 : Reader UInt64 := fun v => (UInt64.ofNat ·.toNat) <$> integer 0 (UInt64.size - 1) v

/-- Any number literal that is in range. -/
def binary64 : Reader Binary64
  | .number n => let x := n.toBinary64; if x.isFinite then .ok x else .error .malformed
  | v => .error v.mismatch

def optional {α : Type} (read : Reader α) : Reader (Option α)
  | .null => .ok none
  | v => some <$> read v

def list {α : Type} (read : Reader α) : Reader (List α)
  | .array items complete => do
    let xs ← items.mapM read
    if complete then return xs else .error .malformed
  | v => .error v.mismatch

/-- A constant by its name, alone or as the one key of an object whose value is null. -/
def constant {α : Type} (ofName? : String → Option α) : Reader α
  | .string raw => do
    let some a := ofName? (← text raw) | .error .mismatch
    return a
  | .object ((raw, v) :: rest) complete => do
    let some a := ofName? (← text raw) | .error .mismatch
    match v, rest, complete with
    | .null, [], true => return a
    | .null, _, _ => .error .malformed
    | v, _, _ => .error v.mismatch
  | .object [] _ => .error .malformed
  | v => .error v.mismatch

end Reader

/-- One named part of a record under construction. -/
structure RecordField (σ : Type) where
  name : String
  required : Bool
  read : Value → σ → Except Fault σ

namespace RecordField

def mandatory {σ α : Type} (name : String) (read : Reader α) (set : α → σ → σ) : RecordField σ :=
  ⟨name, true, fun v s => (set · s) <$> read v⟩

/-- A part that keeps its value in the blank record when it is absent. -/
def defaulted {σ α : Type} (name : String) (read : Reader α) (set : α → σ → σ) : RecordField σ :=
  ⟨name, false, fun v s => (set · s) <$> read v⟩

end RecordField

/-- Reads the members of an object into a record; unknown names are passed over and a known one may
come only once. -/
def readMembers {σ : Type} (fields : List (RecordField σ)) :
    List (Bytes × Value) → List String → σ → Except Fault (List String × σ)
  | [], seen, s => .ok (seen, s)
  | (raw, v) :: rest, seen, s => do
    let name ← text raw
    match fields.find? (·.name == name) with
    | none => readMembers fields rest seen s
    | some field =>
      if seen.contains name then .error .mismatch
      else readMembers fields rest (name :: seen) (← field.read v s)

/-- Reads the items of an array into the fields in order; only fields with a default may be left
out, and there may be no item too many. -/
def readItems {σ : Type} : List (RecordField σ) → List Value → Bool → σ → Except Fault σ
  | [], items, complete, s => if items.isEmpty && complete then .ok s else .error .malformed
  | field :: fields, [], complete, s =>
    if !complete then .error .malformed
    else if field.required then .error .mismatch
    else readItems fields [] complete s
  | field :: fields, v :: items, complete, s => do
    readItems fields items complete (← field.read v s)

/-- A record written as an object or as the array of its fields in order. -/
def Reader.record {σ : Type} (fields : List (RecordField σ)) (blank : σ) : Reader σ
  | .object members complete => do
    let (seen, s) ← readMembers fields members [] blank
    if !complete then .error .malformed
    else if fields.all fun f => !f.required || seen.contains f.name then return s
    else .error .mismatch
  | .array items complete => readItems fields items complete blank
  | v => .error v.mismatch

mutual

/-- Whether a value can be kept whole: numbers in range, strings that are text, and containers no
deeper than `depth`. -/
def Value.storable (depth : Nat) : Value → Bool
  | .null => true
  | .bool _ => true
  | .number n => n.toBinary64.isFinite
  | .string raw => (stringText? raw).isSome
  | .broken => false
  | .array items complete => complete && 0 < depth && storableItems (depth - 1) items
  | .object members complete => complete && 0 < depth && storableMembers (depth - 1) members

def storableItems (depth : Nat) : List Value → Bool
  | [] => true
  | v :: vs => v.storable depth && storableItems depth vs

def storableMembers (depth : Nat) : List (Bytes × Value) → Bool
  | [] => true
  | (raw, v) :: ms => (stringText? raw).isSome && v.storable depth && storableMembers depth ms

end

/-- Containers may nest this deep where they are kept whole. -/
def depthLimit : Nat := 127

/-- Reads the known members of an object into a record and keeps the others, in order. A member that
is kept has to be storable. -/
def readOpenMembers {σ : Type} (fields : List (RecordField σ)) (depth : Nat) :
    List (Bytes × Value) → List String → σ →
      Except Fault (List String × σ × List (Bytes × Value))
  | [], seen, s => .ok (seen, s, [])
  | (raw, v) :: rest, seen, s => do
    let name ← text raw
    match fields.find? (·.name == name) with
    | none =>
      if v.storable depth then
        let (seen, s, others) ← readOpenMembers fields depth rest seen s
        return (seen, s, (raw, v) :: others)
      else .error .malformed
    | some field =>
      if seen.contains name then .error .mismatch
      else readOpenMembers fields depth rest (name :: seen) (← field.read v s)

/-- A record of known members together with the members it does not know. -/
def readOpen {σ : Type} (fields : List (RecordField σ)) (depth : Nat)
    (members : List (Bytes × Value)) (complete : Bool) (blank : σ) :
    Except Fault (σ × List (Bytes × Value)) := do
  let (seen, s, others) ← readOpenMembers fields depth members [] blank
  if !complete then .error .malformed
  else if fields.all fun f => !f.required || seen.contains f.name then return (s, others)
  else .error .mismatch

/-- Reads a text that holds one value and nothing else. -/
def Reader.document {α : Type} (read : Reader α) (bs : Bytes) : Except Fault α := do
  let doc := Document.read bs
  let a ← read doc.value
  if doc.alone then return a else .error .malformed

end JobDashboard.Json
