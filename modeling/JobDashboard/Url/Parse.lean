import JobDashboard.Url.Basic

/-!
# Reading web addresses

Blanks and controls around the text and tabs and line ends anywhere count for nothing. The scheme
decides what follows: web schemes have an authority however many slashes come first, files may have
a host after two, and other schemes have an authority after exactly two slashes, a path after one,
and any text otherwise.
-/

namespace JobDashboard.Url

def isEdge (c : Char) : Bool := c.toNat ≤ 0x20

/-- Characters that are left out wherever they stand. -/
def isSkipped (c : Char) : Bool := c = '\t' || c = '\n' || c = '\r'

/-- The text without what does not count. -/
def cleaned (cs : List Char) : List Char :=
  (((cs.dropWhile isEdge).reverse.dropWhile isEdge).reverse).filter (!isSkipped ·)

def isSchemeChar (c : Char) : Bool := c.isAlphanum || c = '+' || c = '-' || c = '.'

/-- The scheme in small letters and what follows its colon. -/
def scheme? (cs : List Char) : Option (List Char × List Char) :=
  match cs, cs.dropWhile isSchemeChar with
  | first :: _, ':' :: rest =>
    if first.isAlpha then some ((cs.takeWhile isSchemeChar).map Char.toLower, rest) else none
  | _, _ => none

/-- Characters that end an authority. -/
def endsAuthority (special : Bool) (c : Char) : Bool :=
  c = '/' || c = '?' || c = '#' || (special && c = '\\')

def endsPath (c : Char) : Bool := c = '?' || c = '#'

/-- The query and the fragment of what follows a path. -/
def readTail (special : Bool) (cs : List Char) : Option String × Option String :=
  let fragment (cs : List Char) : Option String :=
    match cs with
    | '#' :: text => some (encode inFragment text)
    | _ => none
  match cs with
  | '?' :: rest =>
    (some (encode (inQuery special) (rest.takeWhile (· ≠ '#'))), fragment (rest.dropWhile (· ≠ '#')))
  | cs => (none, fragment cs)

/-- The pieces between slashes; in special schemes backslashes are slashes. -/
def pathPieces (special : Bool) (cs : List Char) : List (List Char) :=
  (cs.map fun c => if special && c = '\\' then '/' else c).splitOn '/'

/-- Adds the pieces of a path, where a step at the end leaves an empty segment. -/
def addPieces (file : Bool) (path : List String) : List (List Char) → List String
  | [] => path
  | piece :: rest =>
    let text := encode inPath piece
    let last := rest.isEmpty
    let path :=
      if isDoubleDot text then shorten file path ++ if last then [""] else []
      else if isSingleDot text then path ++ if last then [""] else []
      else if file && path.isEmpty && isDriveLetter piece then
        [String.ofList (piece.take 1) ++ ":"]
      else path ++ [text]
    addPieces file path rest

/-- The segments of a path without its first slash. -/
def readSegments (scheme : String) (cs : List Char) : List String :=
  let file := scheme = "file"
  withoutEmptyRoot file (addPieces file [] (pathPieces (isSpecial scheme) cs))

def readPort (scheme : String) (cs : List Char) : Except UrlError (Option UInt16) :=
  if cs.all Char.isDigit then
    let n := cs.foldl (fun n c => 10 * n + (c.toNat - 48)) 0
    let port := UInt16.ofNat n
    if 65535 < n then .error .invalidPort
    else .ok (if cs.isEmpty || defaultPort? scheme = some port then none else some port)
  else .error .invalidPort

/-- The user name and password before an at sign. A password that is empty does not count. -/
def readUser (cs : List Char) : String × Option String :=
  let username := encode inUser (cs.takeWhile (· ≠ ':'))
  match cs.dropWhile (· ≠ ':') with
  | _ :: c :: password => (username, some (encode inUser (c :: password)))
  | _ => (username, none)

/-- The host before its port and the text from the colon on. Colons between brackets belong to the
host. -/
def splitHost (bracketed : Bool) : List Char → List Char × List Char
  | [] => ([], [])
  | c :: rest =>
    if c = ':' && !bracketed then ([], c :: rest)
    else
      let inside := if c = '[' then true else if c = ']' then false else bracketed
      let (host, port) := splitHost inside rest
      (c :: host, port)

/-- The authority between the slashes and the path; `pathFollows` says whether a path does. -/
def readAuthority (scheme : String) (pathFollows : Bool) (cs : List Char) :
    Except UrlError Authority := do
  let special := isSpecial scheme
  let place := (cs.reverse.takeWhile (· ≠ '@')).reverse
  let user := cs.take (cs.length - place.length - 1)
  let hasAt := place.length < cs.length
  if hasAt && user.isEmpty && place.isEmpty && pathFollows then .error .emptyHost
  else
    let (username, password) := readUser user
    let (hostChars, portChars) := splitHost false place
    let host ←
      if special then if hostChars.isEmpty then .error .emptyHost else Host.ofChars hostChars
      else Host.ofOtherChars hostChars
    let empty := host = .name ""
    if empty && (!portChars.isEmpty || username != "" || password.isSome) then .error .emptyHost
    else
      let port ← readPort scheme (portChars.drop 1)
      return ⟨username, password, if empty then none else some host, port⟩

/-- An address with an authority, read from behind the slashes before it. -/
def readFromAuthority (scheme : String) (cs : List Char) : Except UrlError Url := do
  let special := isSpecial scheme
  let rest := cs.dropWhile (!endsAuthority special ·)
  let authority ← readAuthority scheme (!rest.isEmpty) (cs.takeWhile (!endsAuthority special ·))
  let path := rest.takeWhile (!endsPath ·)
  let (query, fragment) := readTail special (rest.dropWhile (!endsPath ·))
  let segments := if path.isEmpty && !special then [] else readSegments scheme (path.drop 1)
  return ⟨scheme, some authority, .segments segments, query, fragment⟩

/-- The host of a file address and the text of its path. -/
def readFileHost (cs : List Char) : Except UrlError (Option Host × List Char) := do
  let ends (c : Char) : Bool := endsAuthority true c
  let host := cs.takeWhile (!ends ·)
  let rest := cs.dropWhile (!ends ·)
  if isDriveLetter host then return (none, '/' :: cs)
  else if host.isEmpty then return (none, rest)
  else
    match ← Host.ofChars host with
    | .name "localhost" => return (none, rest)
    | host => return (some host, rest)

/-- The address of a file, read from behind its colon. -/
def readFile (cs : List Char) : Except UrlError Url := do
  let isSlash (c : Char) : Bool := c = '/' || c = '\\'
  let (host, rest) ←
    match cs with
    | a :: b :: after => if isSlash a && isSlash b then readFileHost after else .ok (none, cs)
    | cs => .ok (none, cs)
  let path := rest.takeWhile (!endsPath ·)
  let segments := readSegments "file" (if path.head?.any isSlash then path.drop 1 else path)
  let (query, fragment) := readTail true (rest.dropWhile (!endsPath ·))
  let host := if segments.head?.any isDrive then none else host
  return ⟨"file", some ⟨"", none, host, none⟩, .segments segments, query, fragment⟩

/-- An address of a scheme without rules of its own, read from behind its colon. -/
def readOther (scheme : String) (cs : List Char) : Except UrlError Url :=
  match cs with
  | '/' :: '/' :: rest => readFromAuthority scheme rest
  | cs =>
    let path := cs.takeWhile (!endsPath ·)
    let (query, fragment) := readTail false (cs.dropWhile (!endsPath ·))
    let path := match path with
      | '/' :: rest => .segments (readSegments scheme rest)
      | path => .rootless (encode isControl path)
    .ok ⟨scheme, none, path, query, fragment⟩

/-- The address that a text spells. -/
def ofString (s : String) : Except UrlError Url :=
  match scheme? (cleaned s.toList) with
  | none => .error .noScheme
  | some (scheme, rest) =>
    let scheme := String.ofList scheme
    if scheme = "file" then readFile rest
    else if isSpecial scheme then
      readFromAuthority scheme (rest.dropWhile fun c => c = '/' || c = '\\')
    else readOther scheme rest

end JobDashboard.Url
