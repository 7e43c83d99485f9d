import JobDashboard.Text.Integer

/-!
# Quoted texts in TOML

A text stands between quotes or apostrophes. Between quotes a backslash escapes; between apostrophes
every character stands for itself. Three quotes or apostrophes open a text that may run over several
lines: a line break right after them does not count, every other one stands for itself, and up to
two more quotes may stand directly before the closing three.
-/

namespace JobDashboard.Toml

def isBlank (c : Char) : Bool := c == ' ' || c == '\t'

def skipBlanks (cs : List Char) : List Char := cs.dropWhile isBlank

/-- Characters that may stand in a text as they are. -/
def isPlain (c : Char) : Bool := c == '\t' || (0x20 ≤ c.toNat && c.toNat != 0x7F)

/-- The character that a one-letter escape stands for. -/
def simpleEscape? (c : Char) : Option Char :=
  match c with
  | 'b' => some '\x08'
  | 't' => some '\t'
  | 'n' => some '\n'
  | 'e' => some '\x1b'
  | 'f' => some '\x0c'
  | 'r' => some '\r'
  | '\x22' => some '\x22'
  | '\\' => some '\\'
  | _ => none

/-- The character with a hexadecimal number. -/
def numbered? (digits : List Char) : Option Char := do
  let n ← Text.digitsIn? 16 digits
  if n.isValidChar then some (Char.ofNat n) else none

/-- A character put before a text that is read from what follows it. -/
def prepend (c : Char) (text : Option (List Char × List Char)) : Option (List Char × List Char) :=
  text.map fun (cs, rest) => (c :: cs, rest)

/-- A text up to its closing quote, and what follows the quote. -/
def quoted? : List Char → Option (List Char × List Char)
  | [] => none
  | '\x22' :: rest => some ([], rest)
  | '\\' :: 'x' :: a :: b :: rest => do prepend (← numbered? [a, b]) (quoted? rest)
  | '\\' :: 'u' :: a :: b :: c :: d :: rest => do prepend (← numbered? [a, b, c, d]) (quoted? rest)
  | '\\' :: 'U' :: a :: b :: c :: d :: e :: f :: g :: h :: rest => do
    prepend (← numbered? [a, b, c, d, e, f, g, h]) (quoted? rest)
  | '\\' :: e :: rest => do prepend (← simpleEscape? e) (quoted? rest)
  | c :: rest => if isPlain c && c != '\\' then prepend c (quoted? rest) else none

/-- A text up to its closing apostrophe, and what follows that. -/
def literal? : List Char → Option (List Char × List Char)
  | [] => none
  | '\x27' :: rest => some ([], rest)
  | c :: rest => if isPlain c then prepend c (literal? rest) else none

/-- What stands before and after three closing marks, given what follows three marks in a row: of
up to five, the first ones belong to the text. -/
def closing (mark : Char) : List Char → List Char × List Char
  | a :: b :: rest =>
    if a = mark then if b = mark then ([mark, mark], rest) else ([mark], b :: rest)
    else ([], a :: b :: rest)
  | [a] => if a = mark then ([mark], []) else ([], [a])
  | [] => ([], [])

/-- Whether blanks and then a line break follow, so that a backslash in front of them joins the
lines. -/
def endsLine (cs : List Char) : Bool :=
  match skipBlanks cs with
  | '\n' :: _ => true
  | '\r' :: '\n' :: _ => true
  | _ => false

/-- A text of several lines up to its three closing quotes. While lines are joined, blanks and line
breaks are passed over. -/
def quotedLines? (joining : Bool) : List Char → Option (List Char × List Char)
  | [] => none
  | '\n' :: rest =>
    if joining then quotedLines? true rest else prepend '\n' (quotedLines? false rest)
  | '\r' :: '\n' :: rest =>
    if joining then quotedLines? true rest
    else prepend '\r' (prepend '\n' (quotedLines? false rest))
  | '\x22' :: '\x22' :: '\x22' :: rest => some (closing '\x22' rest)
  | '\\' :: 'x' :: a :: b :: rest => do prepend (← numbered? [a, b]) (quotedLines? false rest)
  | '\\' :: 'u' :: a :: b :: c :: d :: rest => do
    prepend (← numbered? [a, b, c, d]) (quotedLines? false rest)
  | '\\' :: 'U' :: a :: b :: c :: d :: e :: f :: g :: h :: rest => do
    prepend (← numbered? [a, b, c, d, e, f, g, h]) (quotedLines? false rest)
  | '\\' :: e :: rest =>
    if endsLine (e :: rest) then quotedLines? true (e :: rest)
    else do prepend (← simpleEscape? e) (quotedLines? false rest)
  | c :: rest =>
    if joining && isBlank c then quotedLines? true rest
    else if isPlain c && c != '\\' then prepend c (quotedLines? false rest)
    else none

/-- A text of several lines up to its three closing apostrophes. -/
def literalLines? : List Char → Option (List Char × List Char)
  | [] => none
  | '\n' :: rest => prepend '\n' (literalLines? rest)
  | '\r' :: '\n' :: rest => prepend '\r' (prepend '\n' (literalLines? rest))
  | '\x27' :: '\x27' :: '\x27' :: rest => some (closing '\x27' rest)
  | c :: rest => if isPlain c then prepend c (literalLines? rest) else none

def skipLineBreak : List Char → List Char
  | '\n' :: rest => rest
  | '\r' :: '\n' :: rest => rest
  | cs => cs

/-- The text that starts here, if one does, and what follows it. -/
def text? : List Char → Option (List Char × List Char)
  | '\x22' :: '\x22' :: '\x22' :: rest => quotedLines? false (skipLineBreak rest)
  | '\x27' :: '\x27' :: '\x27' :: rest => literalLines? (skipLineBreak rest)
  | '\x22' :: rest => quoted? rest
  | '\x27' :: rest => literal? rest
  | _ => none

end JobDashboard.Toml
