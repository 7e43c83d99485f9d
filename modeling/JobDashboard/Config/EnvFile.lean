import JobDashboard.Config.Deployment
import JobDashboard.Text.Alphanumeric

/-!
# Variables from a file

A file gives one variable a line, as a name, an equals sign and a value; `export` may stand in
front, and what starts with a `#` after a blank is a comment. A value between quotes may run over
several lines. Between apostrophes every character stands for itself; elsewhere a backslash escapes
and a dollar sign puts in the value of another variable.

A variable that is set already keeps its value. Reading ends at the first line that is not well
formed, and what was read before it counts.
-/

namespace JobDashboard.Config.EnvFile

/-- How far quotes reach, as one reads along a line. -/
inductive Quoting where
  | outside
  | afterBlank
  | escaped
  | quoted
  | quotedEscape
  | literal
  | literalEscape
deriving DecidableEq

namespace Quoting

def step (q : Quoting) (c : Char) : Quoting :=
  let opened := match c with
    | '\\' => some escaped
    | '\x22' => some quoted
    | '\x27' => some literal
    | _ => none
  match q with
  | outside =>
    let isGap := Text.isBlank c && c != '\n' && c != '\r'
    opened.getD (if isGap then afterBlank else outside)
  | afterBlank => opened.getD outside
  | escaped => outside
  | quoted => if c = '\\' then quotedEscape else if c = '\x22' then outside else quoted
  | quotedEscape => quoted
  | literal => if c = '\\' then literalEscape else if c = '\x27' then outside else literal
  | literalEscape => literal

/-- What stands before a comment, and how far quotes reach then. There is no such state if there is
a comment. -/
def scan (q : Quoting) : List Char → List Char × Option Quoting
  | [] => ([], some q)
  | c :: cs =>
    if q = afterBlank ∧ c = '#' then ([], none)
    else
      let (kept, last) := scan (q.step c) cs
      (c :: kept, last)

end Quoting

/-- The lines of a text, each with its line feed. -/
def physicalLines : List Char → List (List Char)
  | [] => []
  | c :: cs =>
    match c == '\n', physicalLines cs with
    | true, lines => [c] :: lines
    | false, [] => [[c]]
    | false, line :: lines => (c :: line) :: lines

/-- The lines as far as quotes join them, given what is joined so far. A line at whose end something
is left open is joined with the next; at the end of the file that is a fault, given as nothing. -/
def joinedLines (pending : List Char) (q : Quoting) : List (List Char) → List (Option (List Char))
  | [] => if q = .outside then [] else [none]
  | line :: lines =>
    if pending.isEmpty && (line.dropWhile Text.isBlank).head? == some '#' then
      joinedLines [] .outside lines
    else
      match q.scan line with
      | (kept, none) | (kept, some .outside) =>
        some (pending ++ kept) :: joinedLines [] .outside lines
      | (kept, some q) => joinedLines (pending ++ kept) q lines

/-- How a value is read on. -/
inductive Mode where
  | reading
  | escaped
  | literal
  | naming (reversedName : List Char)
  | braced (reversedName : List Char)
  | ended

def valueOf (vars : Variables) (reversedName : List Char) : List Char :=
  ((vars.lookup (.ofList reversedName.reverse)).getD "").toList

/-- The value that a text spells. A variable's name is made of letters and numbers, or stands
between braces; the character right after a name without braces never counts as a mark. -/
def value? (vars : Variables) (inQuotes : Bool) : Mode → List Char → Option (List Char)
  | .reading, [] | .escaped, [] => if inQuotes then none else some []
  | .naming name, [] => if inQuotes then none else some (valueOf vars name)
  | .literal, [] | .braced _, [] => none
  | .ended, [] => some []
  | .reading, c :: cs =>
    if c = '$' then value? vars inQuotes (.naming []) cs
    else if c = '\\' then value? vars inQuotes .escaped cs
    else if c = '\x22' then value? vars (!inQuotes) .reading cs
    else if !inQuotes && c == '\x27' then value? vars inQuotes .literal cs
    else if !inQuotes && (c == ' ' || c == '\t') then value? vars inQuotes .ended cs
    else (value? vars inQuotes .reading cs).map (c :: ·)
  | .escaped, c :: cs =>
    if c = 'n' then (value? vars inQuotes .reading cs).map ('\n' :: ·)
    else if "\\\x27\x22$ ".toList.contains c then (value? vars inQuotes .reading cs).map (c :: ·)
    else none
  | .literal, c :: cs =>
    if c = '\x27' then value? vars inQuotes .reading cs
    else (value? vars inQuotes .literal cs).map (c :: ·)
  | .naming name, c :: cs =>
    if Text.isAlphanumeric c then value? vars inQuotes (.naming (c :: name)) cs
    else if c = '\x7b' ∧ name = [] then value? vars inQuotes (.braced []) cs
    else if c = '$' then
      (value? vars inQuotes (.naming []) cs).map (valueOf vars name ++ ·)
    else (value? vars inQuotes .reading cs).map (valueOf vars name ++ c :: ·)
  | .braced name, c :: cs =>
    if c = '\x7d' then
      (value? vars inQuotes .reading cs).map (valueOf vars name ++ ·)
    else value? vars inQuotes (.braced (c :: name)) cs
  | .ended, c :: cs =>
    if c = '#' then some []
    else if c = ' ' ∨ c = '\t' then value? vars inQuotes .ended cs
    else none

/-- A variable's name in front. -/
def name? (cs : List Char) : Option (String × List Char) :=
  let isNameChar := fun c : Char => c.isAlphanum || c == '_' || c == '.'
  match cs with
  | c :: _ =>
    if c.isAlpha || c == '_' then
      some (.ofList (cs.takeWhile isNameChar), cs.dropWhile isNameChar)
    else none
  | [] => none

/-- What follows an equals sign. -/
def afterEquals? : List Char → Option (List Char)
  | '=' :: rest => some rest
  | _ => none

def skipBlanks (cs : List Char) : List Char := cs.dropWhile Text.isBlank

def isEmptyOrComment (cs : List Char) : Bool := cs.isEmpty || cs.head? == some '#'

/-- The name of a variable and the text of its value, both in front of no blank. -/
def nameAndText? (cs : List Char) : Option (String × List Char) := do
  let (name, rest) ← name? cs
  let rest := skipBlanks rest
  match name == "export", afterEquals? rest with
  | _, some text => return (name, skipBlanks text)
  | true, none =>
    let (name, rest) ← name? rest
    return (name, skipBlanks (← afterEquals? (skipBlanks rest)))
  | false, none => none

/-- The variable that a line gives, if it gives one; no answer at all if the line is not well
formed. -/
def assignment? (vars : Variables) (line : List Char) : Option (Option (String × String)) :=
  let cs := Text.trim line
  if isEmptyOrComment cs then some none
  else do
    let (name, text) ← nameAndText? cs
    if isEmptyOrComment text then return some (name, "")
    else return some (name, .ofList (← value? vars false .reading text))

/-- A variable cannot hold the character that ends texts outside of the program. -/
structure ZeroCharacter where
  name : String
deriving DecidableEq

/-- Sets the variables of lines, those that are set already aside. -/
def addLines (vars : Variables) :
    List (Option (List Char)) → Except ZeroCharacter Variables
  | [] | none :: _ => .ok vars
  | some line :: lines =>
    match assignment? vars line with
    | none => .ok vars
    | some none => addLines vars lines
    | some (some (name, value)) =>
      if (vars.lookup name).isSome then addLines vars lines
      else if value.toList.contains '\x00' then .error ⟨name⟩
      else addLines (vars ++ [(name, value)]) lines

/-- The variables together with those of a file. A byte order mark in front of it does not count. -/
def load (text : String) (vars : Variables) : Except ZeroCharacter Variables :=
  addLines vars (joinedLines [] .outside (physicalLines (Text.withoutMark text.toList)))

end JobDashboard.Config.EnvFile
