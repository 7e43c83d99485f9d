/-!
# Lists kept in the order of their keys

A finite map as a list of entries with ascending keys. `alter` changes the entry of one key, or
makes it where the order wants it, and leaves all other entries alone.
-/

namespace JobDashboard.Ordered

variable {κ α ε : Type} [Ord κ]

/-- The value at a key. -/
def lookup (k : κ) : List (κ × α) → Option α
  | [] => none
  | (k', a) :: rest => if (compare k k').isEq then some a else lookup k rest

/-- Puts `change` of the value at a key in its place; the change may fail. -/
def alter (k : κ) (change : Option α → Except ε α) : List (κ × α) → Except ε (List (κ × α))
  | [] => do return [(k, ← change none)]
  | (k', a) :: rest =>
    match compare k k' with
    | .lt => do return (k, ← change none) :: (k', a) :: rest
    | .eq => do return (k', ← change (some a)) :: rest
    | .gt => do return (k', a) :: (← alter k change rest)

end JobDashboard.Ordered
