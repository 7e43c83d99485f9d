import JobDashboard.Url.Host

/-!
# Web addresses

An address is a scheme and a path, with an authority before the path where there is one and a query
and a fragment after it. A path is a list of segments, each with a slash before it; addresses
without an authority may have a text in its place that has no segments. The parts hold ASCII text:
in each, the characters that would end it or be unsafe are percent-encoded.
-/

namespace JobDashboard

/-- Who is addressed. -/
structure Authority where
  username : String
  password : Option String
  /-- Absent if it is empty. -/
  host : Option Host
  port : Option UInt16
deriving DecidableEq

inductive UrlPath where
  /-- A text that is no path. -/
  | rootless (text : String)
  | segments (segments : List String)
deriving DecidableEq

structure Url where
  scheme : String
  authority : Option Authority
  path : UrlPath
  query : Option String
  fragment : Option String
deriving DecidableEq

namespace Url

/-- Characters that are encoded everywhere: controls and what is not ASCII. -/
def isControl (c : Char) : Bool := c.toNat < 0x20 || 0x7F ≤ c.toNat

def inFragment (c : Char) : Bool := isControl c || " \x22<>\x60".toList.contains c

/-- Characters that are encoded in a path. -/
def inPath (c : Char) : Bool := inFragment c || "#?\x7b\x7d".toList.contains c

/-- Characters that are encoded in a user name or password. -/
def inUser (c : Char) : Bool := inPath c || "/:;=@[\\]^|".toList.contains c

/-- Characters that are encoded in a query; in that of a web address the apostrophe is one. -/
def inQuery (special : Bool) (c : Char) : Bool :=
  isControl c || " \x22#<>".toList.contains c || (special && c.toNat = 0x27)

/-- Characters that are encoded in a segment that is added to a path. -/
def inSegment (special : Bool) (c : Char) : Bool :=
  inPath c || c = '/' || c = '%' || (special && c = '\\')

/-- The characters with those of a set percent-encoded. -/
def encodeChars (set : Char → Bool) (cs : List Char) : List Char :=
  cs.flatMap fun c =>
    if set c then
      ((Utf8.encodeChar c).flatMap FormUrlencoded.percent).map fun b => Char.ofNat b.toNat
    else [c]

def encode (set : Char → Bool) (cs : List Char) : String := String.ofList (encodeChars set cs)

/-- The port that a web scheme has when none is given. -/
def defaultPort? : String → Option UInt16
  | "http" | "ws" => some 80
  | "https" | "wss" => some 443
  | "ftp" => some 21
  | _ => none

/-- Schemes whose addresses always have an authority or a path. -/
def isSpecial (scheme : String) : Bool := (defaultPort? scheme).isSome || scheme = "file"

/-- Whether paths can be put behind an address. -/
def isBase (u : Url) : Bool :=
  match u.authority, u.path with
  | some _, _ => true
  | none, .segments (_ :: _) => true
  | none, _ => false

/-- Whether a segment means one step back. -/
def isDoubleDot (segment : String) : Bool :=
  ["..", ".%2e", "%2e.", "%2e%2e"].contains segment.toLower

/-- Whether a segment means no step. -/
def isSingleDot (segment : String) : Bool := [".", "%2e"].contains segment.toLower

def isDriveLetter (segment : List Char) : Bool :=
  match segment with
  | [c, mark] => c.isAlpha && (mark = ':' || mark = '|')
  | _ => false

def isDrive (segment : String) : Bool :=
  match segment.toList with
  | [c, ':'] => c.isAlpha
  | _ => false

/-- A path without its last segment; in a file's path a drive stays. -/
def shorten (file : Bool) (path : List String) : List String :=
  match path with
  | [drive] => if file && isDrive drive then path else []
  | _ => path.dropLast

/-- The empty segments that a file's path may begin with do not count. -/
def withoutEmptyRoot (file : Bool) : List String → List String
  | "" :: s :: rest => if file then withoutEmptyRoot file (s :: rest) else "" :: s :: rest
  | path => path

/-- Adds a segment, where two dots step back and one stays. The empty segment of a bare root gives
way to the first one added. -/
def push (file : Bool) (path : List String) (segment : String) : List String :=
  let path := if path = [""] then [] else path
  withoutEmptyRoot file <|
    if isDoubleDot segment then shorten file path ++ [""]
    else if isSingleDot segment then path ++ [""]
    else path ++ [segment]

def queryText (mark : String) : Option String → String
  | none => ""
  | some text => mark ++ text

def authorityText (a : Authority) : String :=
  let password := queryText ":" a.password
  let user := if a.username.isEmpty && a.password.isNone then "" else a.username ++ password ++ "@"
  let port := (a.port.map fun p => ":" ++ Nat.repr p.toNat).getD ""
  user ++ ((a.host.map Host.toString).getD "") ++ port

def pathText : UrlPath → String
  | .rootless text => text
  | .segments segments => String.join (segments.map ("/" ++ ·))

def toString (u : Url) : String :=
  let authority := match u.authority, u.path with
    | some a, _ => "//" ++ authorityText a
    | none, .segments ("" :: _ :: _) => "/."
    | none, _ => ""
  u.scheme ++ ":" ++ authority ++ pathText u.path ++ queryText "?" u.query ++
    queryText "#" u.fragment

/-- What a server is asked for: the path and the query. -/
def target (u : Url) : String := pathText u.path ++ queryText "?" u.query

end Url

end JobDashboard
