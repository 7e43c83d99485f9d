import JobDashboard.Text.Utf8

/-!
# Media types

The value of a content-type header: a type, a subtype that may end in a suffix after a plus sign,
and parameters. The parameters are checked for their form and then forgotten. Names are compared in
lower case.
-/

namespace JobDashboard

/-- A media type without its parameters. -/
structure MediaType where
  type : List Char
  subtype : List Char
  suffix : Option (List Char)
deriving DecidableEq

namespace MediaType

/-- Characters of names and of values without quotes. -/
def isToken (c : Char) : Bool :=
  c.isAlphanum || "!#$%&\x27*+-.^_\x60|~".toList.contains c

/-- Characters between quotes. -/
def isQuotable (c : Char) : Bool := 0x20 ≤ c.toNat && c.toNat ≤ 0x7E

/-- What follows a quoted text up to the next parameter: blanks, then a semicolon or the end. -/
def afterQuoted : List Char → Option (List Char)
  | [] => some []
  | ' ' :: cs => afterQuoted cs
  | ';' :: cs => some cs
  | _ => none

/-- What follows the closing quote of a text. A quote right after the opening one belongs to the
text. -/
def quotedRest (seen : Bool) : List Char → Option (List Char)
  | '\\' :: c :: cs => if isQuotable c then quotedRest true cs else none
  | '\x22' :: cs => if seen then afterQuoted cs else quotedRest true cs
  | c :: cs => if c ≠ '\\' && isQuotable c then quotedRest true cs else none
  | [] => none

/-- What follows a value without quotes and its semicolon. -/
def plainRest (cs : List Char) : Option (List Char) :=
  match cs.dropWhile isToken with
  | [] => some []
  | ';' :: rest => if cs.takeWhile isToken = [] then none else some rest
  | _ => none

/-- Whether what follows a semicolon is a list of parameters. `fuel` bounds their number. -/
def parametersFit : Nat → List Char → Bool
  | _, [] => true
  | 0, _ => false
  | fuel + 1, cs =>
    let cs := cs.dropWhile (· = ' ')
    match cs, cs.takeWhile isToken, cs.dropWhile isToken with
    | [], _, _ => true
    | _, _ :: _, '=' :: '\x22' :: rest => (quotedRest false rest).any (parametersFit fuel)
    | _, _ :: _, '=' :: rest => (plainRest rest).any (parametersFit fuel)
    | _, _, _ => false

/-- A subtype cut at its last plus sign, if one stands after its first character. -/
def splitSuffix (name : List Char) : List Char × Option (List Char) :=
  let tail := (name.reverse.takeWhile (· ≠ '+')).reverse
  let head := name.take (name.length - tail.length - 1)
  if head.isEmpty || tail.length = name.length then (name, none) else (head, some tail)

def ofChars? (cs : List Char) : Option MediaType :=
  let type := cs.takeWhile isToken
  match type, cs.dropWhile isToken with
  | _ :: _, '/' :: rest =>
    let name := rest.takeWhile isToken
    let made : MediaType :=
      let (subtype, suffix) := splitSuffix (name.map Char.toLower)
      ⟨type.map Char.toLower, subtype, suffix⟩
    match name, rest.dropWhile isToken with
    | _, [] => some made
    | _ :: _, ';' :: parameters =>
      if parametersFit parameters.length parameters then some made else none
    | _, _ => none
  | _, _ => none

/-- Whether a body of this type is JSON. -/
def isJson (m : MediaType) : Bool :=
  m.type = "application".toList &&
    (m.subtype = "json".toList || m.suffix = some "json".toList)

end MediaType

end JobDashboard
