import JobDashboard.Url.Basic

/-!
# Addresses below another one

Segments put behind a path and pairs behind a query. A segment that is one or two dots is left out;
in any other, tabs and line ends vanish first, then what would end the segment or could be read as
an escape is percent-encoded, and if only dots are left they are steps.
-/

namespace JobDashboard.Url

/-- Whether a name is left out of a path. -/
def isLeftOut (name : String) : Bool := name = "." || name = ".."

/-- A name as a segment. -/
def segmentText (special : Bool) (name : String) : String :=
  encode (inSegment special) (name.toList.filter fun c => c ≠ '\t' && c ≠ '\n' && c ≠ '\r')

/-- A path without the empty segment it may end in. -/
def withoutEmptyEnd (path : List String) : List String :=
  if 1 < path.length && path.getLast? = some "" then path.dropLast else path

/-- Puts names behind a path. -/
def pushAll (scheme : String) (path : List String) (names : List String) : List String :=
  (names.filter (!isLeftOut ·)).foldl
    (fun path name => push (scheme = "file") path (segmentText (isSpecial scheme) name)) path

/-- The address whose path goes on with some names. -/
def extend (u : Url) (names : List String) : Url :=
  match u.path with
  | .rootless _ => u
  | .segments path => { u with path := .segments (pushAll u.scheme (withoutEmptyEnd path) names) }

/-- The query with pairs behind it. -/
def queryWith (query : Option String) (pairs : List (String × String)) : String :=
  match query with
  | none | some "" => FormUrlencoded.encode pairs
  | some query => query ++ "&" ++ FormUrlencoded.encode pairs

/-- The address whose query goes on with some pairs. -/
def withPairs (u : Url) (pairs : List (String × String)) : Url :=
  if pairs.isEmpty then u else { u with query := some (queryWith u.query pairs) }

end JobDashboard.Url
