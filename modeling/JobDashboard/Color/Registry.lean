import JobDashboard.Color.Basic

/-!
# The color of each queue

Queues get the palette's colors in the order in which they are first seen, from the start again when
the palette is used up, and keep them.
-/

namespace JobDashboard

/-- The palette and the colors given out so far, latest first. -/
structure ColorRegistry where
  palette : List Color
  palette_ne_nil : palette ≠ []
  assigned : List (String × Color)

namespace ColorRegistry

/-- A registry that has given out nothing. An empty palette stands for the default one. -/
def ofPalette (palette : List Color) : ColorRegistry :=
  if h : palette = [] then ⟨Color.palette, by decide, []⟩ else ⟨palette, h, []⟩

def fresh : ColorRegistry := ofPalette Color.palette

/-- The color that the next unseen queue gets. -/
def next (r : ColorRegistry) : Color :=
  r.palette.get ⟨r.assigned.length % r.palette.length,
    Nat.mod_lt _ (List.length_pos_iff.2 r.palette_ne_nil)⟩

def colorOf? (r : ColorRegistry) (queue : String) : Option Color := r.assigned.lookup queue

/-- The color of a queue, given out now if the queue is new. -/
def colorFor (r : ColorRegistry) (queue : String) : Color × ColorRegistry :=
  match r.colorOf? queue with
  | some color => (color, r)
  | none => (r.next, { r with assigned := (queue, r.next) :: r.assigned })

/-- The colors of queues, asked for one after the other. -/
def colorsFor (r : ColorRegistry) : List String → List (String × Color) × ColorRegistry
  | [] => ([], r)
  | queue :: queues =>
    let (color, r) := r.colorFor queue
    let (colors, r) := r.colorsFor queues
    ((queue, color) :: colors, r)

/-- How many queues have a color. -/
def count (r : ColorRegistry) : Nat := r.assigned.length

end ColorRegistry

end JobDashboard
