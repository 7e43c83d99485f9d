import JobDashboard.Text.Blank
import JobDashboard.Toml.DateTime
import JobDashboard.Toml.Number
import JobDashboard.Toml.Outline
import JobDashboard.Toml.Text

/-!
# TOML texts

A text is a sequence of lines: headers, which say where the lines after them belong, and keys with
their values. Values are texts, numbers, switches, dates, lists and tables between braces. Lists and
tables between braces may run over several lines, hold comments, and have a comma after their last
part. Values are nested at most eighty deep.
-/

namespace JobDashboard.Toml

open Config (Path)

/-- Skips blanks, line breaks and comments. A comment holds no control character but the tab. -/
def skipLines? (inComment : Bool) : List Char → Option (List Char)
  | [] => some []
  | '\n' :: rest => skipLines? false rest
  | '\r' :: '\n' :: rest => skipLines? false rest
  | c :: rest =>
    if inComment then if isPlain c then skipLines? true rest else none
    else if isBlank c then skipLines? false rest
    else if c == '#' then skipLines? true rest
    else some (c :: rest)

/-- Whether nothing but a comment follows on the line. -/
def isAtLineEnd (cs : List Char) : Bool :=
  match skipBlanks cs with
  | [] | '\n' :: _ | '\r' :: '\n' :: _ | '#' :: _ => true
  | _ => false

def isBareKeyChar (c : Char) : Bool := c.isAlphanum || c == '_' || c == '-'

/-- A key without points: a word, or a quoted text. -/
def simpleKey? (cs : List Char) : Option (String × List Char) :=
  match cs with
  | '\x22' :: rest => (quoted? rest).map fun (key, rest) => (.ofList key, rest)
  | '\x27' :: rest => (literal? rest).map fun (key, rest) => (.ofList key, rest)
  | cs =>
    let key := cs.takeWhile isBareKeyChar
    if key.isEmpty then none else some (.ofList key, cs.dropWhile isBareKeyChar)

/-- At most `fuel` keys with points between them, and what follows them and the blanks after. -/
def keysWithin? : Nat → List Char → Option (List String × List Char)
  | 0, _ => none
  | fuel + 1, cs => do
    let (key, rest) ← simpleKey? (skipBlanks cs)
    match skipBlanks rest with
    | '.' :: rest =>
      let (keys, rest) ← keysWithin? fuel rest
      return (key :: keys, rest)
    | rest => return ([key], rest)

def keys? (cs : List Char) : Option (List String × List Char) := keysWithin? cs.length cs

/-- What a word stands for that is neither a text nor a list nor a table. -/
def word? (word : List Char) : Option Config.Value :=
  if word == "true".toList then some (.bool true)
  else if word == "false".toList then some (.bool false)
  else
    match dateTime? word with
    | some text => some (.text (.ofList text))
    | none => number? word

def isWordChar (c : Char) : Bool := !isBlank c && !"\r\n,]\x7d#".toList.contains c

/-- The word in front. A blank may stand between a date and a time. -/
def splitWord (cs : List Char) : List Char × List Char :=
  let word := cs.takeWhile isWordChar
  match (date? word).isSome, cs.dropWhile isWordChar with
  | true, ' ' :: c :: rest =>
    if c.isDigit then
      (word ++ 'T' :: (c :: rest).takeWhile isWordChar, (c :: rest).dropWhile isWordChar)
    else (word, ' ' :: c :: rest)
  | _, rest => (word, rest)

/-- A value that holds no others. -/
def plain? (cs : List Char) : Option (Config.Value × List Char) :=
  match cs with
  | '\x22' :: _ | '\x27' :: _ => (text? cs).map fun (text, rest) => (.text (.ofList text), rest)
  | cs =>
    let (word, rest) := splitWord cs
    (word? word).map (·, rest)

/-- At most `fuel` parts with commas between them, up to a closing mark. Line breaks and comments
may stand around every part, and a comma after the last. -/
def parts? {α : Type} (part? : List Char → Option (α × List Char)) (close : Char) :
    Nat → List Char → Option (List α × List Char)
  | 0, _ => none
  | fuel + 1, cs => do
    let cs ← skipLines? false cs
    if cs.head? = some close then return ([], cs.drop 1)
    else
      let (a, rest) ← part? cs
      let rest ← skipLines? false rest
      match rest.head? with
      | some ',' =>
        let (others, rest) ← parts? part? close fuel (rest.drop 1)
        return (a :: others, rest)
      | last => if last = some close then return ([a], rest.drop 1) else none

/-- An entry between braces, where lines may end around the sign between the key and the value. -/
def member? (inside? : List Char → Option (Config.Value × List Char)) (cs : List Char) :
    Option ((List String × Config.Value) × List Char) := do
  let (keys, rest) ← keys? cs
  match ← skipLines? false rest with
  | '=' :: rest =>
    let (v, rest) ← inside? (← skipLines? false rest)
    return ((keys, v), rest)
  | _ => none

/-- The table that entries between braces make. -/
def tableOf? (entries : List (List String × Config.Value)) : Option Config.Value :=
  (entries.foldlM (fun o (keys, v) => Outline.assign? [] keys v o) []).map Outline.toValue

/-- A value that is nested at most so deep, and what follows it. -/
def value? : Nat → List Char → Option (Config.Value × List Char)
  | 0, cs => plain? cs
  | depth + 1, '[' :: rest => do
    let (items, rest) ← parts? (value? depth) ']' rest.length rest
    return (.list items, rest)
  | depth + 1, '\x7b' :: rest => do
    let (entries, rest) ← parts? (member? (value? depth)) '\x7d' rest.length rest
    return (← tableOf? entries, rest)
  | _ + 1, cs => plain? cs

/-- A key and its value on a line of their own. -/
def assignment? (cs : List Char) : Option ((List String × Config.Value) × List Char) := do
  let (keys, rest) ← keys? cs
  match rest with
  | '=' :: rest =>
    let (v, rest) ← value? 80 (skipBlanks rest)
    return ((keys, v), rest)
  | _ => none

/-- One line, which belongs to the table at a place: the place of the lines after it, what is
defined then, and what follows. -/
def line? (place : Path) (o : Outline) (cs : List Char) : Option (Path × Outline × List Char) :=
  match cs with
  | '[' :: '[' :: rest => do
    match ← keys? rest with
    | (keys, ']' :: ']' :: rest) =>
      let (place, o) ← o.openItem? keys
      return (place, o, rest)
    | _ => none
  | '[' :: rest => do
    match ← keys? rest with
    | (keys, ']' :: rest) =>
      let (place, o) ← o.openTable? keys
      return (place, o, rest)
    | _ => none
  | cs => do
    let ((keys, v), rest) ← assignment? cs
    return (place, ← o.assign? place keys v, rest)

/-- What at most `fuel` lines define. -/
def linesWithin? : Nat → Path → Outline → List Char → Option Outline
  | 0, _, _, _ => none
  | fuel + 1, place, o, cs => do
    match ← skipLines? false cs with
    | [] => some o
    | cs =>
      let (place, o, rest) ← line? place o cs
      if isAtLineEnd rest then linesWithin? fuel place o rest else none

/-- The table that a text spells, if it is well formed. A byte order mark in front does not count.
-/
def document? (text : List Char) : Option Config.Value :=
  let cs := Text.withoutMark text
  (linesWithin? (cs.length + 1) [] [] cs).map Outline.toValue

end JobDashboard.Toml
