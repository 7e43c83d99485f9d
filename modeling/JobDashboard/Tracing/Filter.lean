import JobDashboard.Text.Alphanumeric
import JobDashboard.Text.Blank
import JobDashboard.Text.Integer
import JobDashboard.Text.Utf8
import JobDashboard.Tracing.Event

/-!
# Which events are logged

A filter is a list of directives between commas. A directive is a level, or a target with or without
a level; names between brackets say what an event has to lie in or to carry. The most specific
directive about an event decides: the one with the longest target that the event's target starts
with. A filter without any directives lets errors through.
-/

namespace JobDashboard.Tracing

/-- The most talkative level that passes; nothing passes without one. -/
abbrev Threshold := Option Level

def Threshold.passes (t : Threshold) (level : Level) : Bool :=
  match t with
  | some most => level.rank ≤ most.rank
  | none => false

/-- The threshold of a number from zero to five, or of a word in any case. -/
def Threshold.ofChars? (cs : List Char) : Option Threshold :=
  match Text.integer? 0 5 cs with
  | some n => some (Level.all.find? fun level => n = level.rank)
  | none =>
    let word := String.ofList (cs.map Char.toUpper)
    if word = "OFF" then some none
    else (Level.all.find? fun level => level.name == word).map some

/-- A condition on events: the target they start with, and a field that they carry. -/
structure Directive where
  target : Option String
  field : Option String
  threshold : Threshold
deriving DecidableEq

namespace Directive

def concerns (d : Directive) (e : Event) : Bool :=
  d.target.all (e.target.startsWith ·) && d.field.all e.hasField

/-- How specific a directive is: the length of its target, the absence of one counting less than an
empty one, and then whether it asks for a field. -/
def specificity (d : Directive) : Nat :=
  let length := match d.target with
    | some target => (Utf8.encode target).length + 1
    | none => 0
  2 * length + d.field.isSome.toNat

/-- Whether a directive comes before an earlier one about the same event. Of equally specific ones
the greater field name does, or else the later directive. -/
def outranks (d earlier : Directive) : Bool :=
  earlier.specificity < d.specificity ||
    (earlier.specificity == d.specificity && decide (earlier.field.getD "" ≤ d.field.getD ""))

end Directive

/-- What a well-formed directive is about: all events that meet a condition, or those inside spans
of a name or with a value, of which the program logs none. -/
inductive Rule where
  | events (directive : Directive)
  | spans
deriving DecidableEq

namespace Rule

/-- The level after an equals sign; without one, everything passes. -/
def threshold? (cs : List Char) : Option Threshold :=
  if cs.isEmpty then some (some .trace) else Threshold.ofChars? cs

/-- What may follow a closing bracket. -/
def afterBracket? : List Char → Option Threshold
  | '=' :: level => threshold? level
  | cs => if cs.all Text.isBlank then some (some .trace) else none

/-- A rule with a condition on fields, after the brace that opens it. -/
def ofField? (target : Option String) (inSpan : Bool) (cs : List Char) : Option Rule := do
  let field := cs.takeWhile (· != '\x7d')
  match field.isEmpty, cs.dropWhile (· != '\x7d') with
  | false, '\x7d' :: ']' :: rest =>
    let threshold ← afterBracket? rest
    if inSpan || field.contains '=' then return .spans
    else return .events ⟨target, some (.ofList field), threshold⟩
  | _, _ => none

/-- A rule with brackets, after the one that opens them. -/
def ofBracket? (target : Option String) (cs : List Char) : Option Rule :=
  let isMark := fun c => c == ']' || c == '\x7b'
  match cs.takeWhile (!isMark ·), cs.dropWhile (!isMark ·) with
  | _, ']' :: rest => (afterBracket? rest).map fun _ => .spans
  | name, '\x7b' :: rest => ofField? target (!name.isEmpty) rest
  | _, _ => none

/-- A rule without blanks in front. -/
def ofWord? (cs : List Char) : Option Rule :=
  let isMark := fun c => c == '=' || c == '['
  let target := some (String.ofList (cs.takeWhile (!isMark ·)))
  match cs.dropWhile (!isMark ·) with
  | '=' :: level => (threshold? level).map fun t => .events ⟨target, none, t⟩
  | '[' :: rest => ofBracket? target rest
  | _ =>
    match Threshold.ofChars? cs with
    | some t => some (.events ⟨none, none, t⟩)
    | none => some (.events ⟨target, none, some .trace⟩)

/-- The rule that a text spells. Blanks in front belong to the name, so that no event has it, and
leave no room for a level. -/
def ofChars? (cs : List Char) : Option Rule :=
  match cs.dropWhile Text.isBlank with
  | [] => none
  | c :: rest =>
    if c == '[' then
      if cs.length = rest.length + 1 then ofBracket? none rest
      else if cs.contains '=' then none
      else (ofBracket? none rest).map fun _ => .spans
    else if c == '-' || c == ':' || c == '_' || Text.isAlphanumeric c then
      if cs.length = rest.length + 1 then ofWord? cs
      else if cs.contains '=' then none
      else if cs.contains '[' then (ofWord? (c :: rest)).map fun _ => .spans
      else some (.events ⟨some (.ofList cs), none, some .trace⟩)
    else none

end Rule

/-- The directives that decide about events. -/
structure Filter where
  directives : List Directive
deriving DecidableEq

namespace Filter

/-- The texts between commas, empty ones left out. -/
def pieces (s : String) : List (List Char) := (s.toList.splitOn ',').filter (!·.isEmpty)

def ofRules (rules : List Rule) : Filter :=
  if rules.isEmpty then ⟨[⟨none, none, some .error⟩]⟩
  else ⟨rules.filterMap fun
    | .events d => some d
    | .spans => none⟩

/-- The filter that a text spells, if all of its directives are well formed. -/
def ofString? (s : String) : Option Filter := ((pieces s).mapM Rule.ofChars?).map ofRules

/-- The filter that a text spells, ill-formed directives left out. -/
def ofString (s : String) : Filter := ofRules ((pieces s).filterMap Rule.ofChars?)

/-- The directive that decides about an event. -/
def decisive? (f : Filter) (e : Event) : Option Directive :=
  f.directives.foldl (fun best d =>
    if d.concerns e && best.all (d.outranks ·) then some d else best) none

def passes (f : Filter) (e : Event) : Bool :=
  match f.decisive? e with
  | some d => d.threshold.passes e.level
  | none => false

end Filter

end JobDashboard.Tracing
