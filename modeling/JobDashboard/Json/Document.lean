import JobDashboard.Json.Token

/-!
# JSON documents

`Document.ofTokens` builds the value that the tokens spell with a stack of open containers. Where
the tokens stop making sense the value is not lost: the containers open at that point are closed as
incomplete, so a reader that walks the value in document order meets a wrong shape before a later
mistake in the syntax, and the other way round.
-/

namespace JobDashboard.Json

/-- A value as written: members in order with repetitions, literals undecoded. -/
inductive Value where
  | null
  | bool (value : Bool)
  | number (literal : NumberLiteral)
  | string (raw : Bytes)
  | array (items : List Value) (complete : Bool)
  | object (members : List (Bytes × Value)) (complete : Bool)
  | broken
deriving Inhabited

/-- A value and whether it is all that the text holds. -/
structure Document where
  value : Value
  alone : Bool

/-- A container that is still open, its contents last first; an object waits for the value of its
latest key. -/
inductive Frame where
  | array (items : List Value)
  | object (members : List (Bytes × Value)) (key : Bytes)

/-- What the next token has to be. -/
inductive Expected where
  | value
  | itemOrEnd
  | keyOrEnd (members : List (Bytes × Value))
  | key (members : List (Bytes × Value))
  | colon
  | separator (before : Value)

/-- The container around an inner value that the text breaks off in. -/
def Frame.brokenOff (inner : Value) : Frame → Value
  | .array items => .array (items.reverse ++ [inner]) false
  | .object members key => .object (members.reverse ++ [(key, inner)]) false

def breakOff (inner : Value) (stack : List Frame) : Document :=
  ⟨stack.foldl Frame.brokenOff inner, false⟩

/-- The document whose text breaks off at this point. -/
def Expected.breakOff (stack : List Frame) : Expected → Document
  | .keyOrEnd members => Json.breakOff (.object members.reverse false) stack
  | .key members => Json.breakOff (.object members.reverse false) stack
  | .separator before => if stack.isEmpty then ⟨before, true⟩ else Json.breakOff before stack
  | .value => Json.breakOff .broken stack
  | .itemOrEnd => Json.breakOff .broken stack
  | .colon => Json.breakOff .broken stack

/-- The value of a token that is a value by itself. -/
def Token.scalar? : Token → Option Value
  | .null => some .null
  | .bool b => some (.bool b)
  | .number n => some (.number n)
  | .string raw => some (.string raw)
  | _ => none

/-- The document that the remaining tokens complete. -/
def build (expected : Expected) (stack : List Frame) : List Token → Document
  | [] => expected.breakOff stack
  | t :: ts =>
    match expected, stack, t with
    | .separator before, [], _ => ⟨before, false⟩
    | .separator before, .array items :: stack, .comma =>
      build .value (.array (before :: items) :: stack) ts
    | .separator before, .array items :: stack, .closeArray =>
      build (.separator (.array (before :: items).reverse true)) stack ts
    | .separator before, .object members key :: stack, .comma =>
      build (.key ((key, before) :: members)) stack ts
    | .separator before, .object members key :: stack, .closeObject =>
      build (.separator (.object ((key, before) :: members).reverse true)) stack ts
    | .colon, stack, .colon => build .value stack ts
    | .keyOrEnd members, stack, .closeObject =>
      build (.separator (.object members.reverse true)) stack ts
    | .keyOrEnd members, stack, .string key => build .colon (.object members key :: stack) ts
    | .key members, stack, .string key => build .colon (.object members key :: stack) ts
    | .itemOrEnd, .array items :: stack, .closeArray =>
      build (.separator (.array items.reverse true)) stack ts
    | .value, stack, .openArray => build .itemOrEnd (.array [] :: stack) ts
    | .itemOrEnd, stack, .openArray => build .itemOrEnd (.array [] :: stack) ts
    | .value, stack, .openObject => build (.keyOrEnd []) stack ts
    | .itemOrEnd, stack, .openObject => build (.keyOrEnd []) stack ts
    | .value, stack, t =>
      match t.scalar? with
      | some v => build (.separator v) stack ts
      | none => Expected.breakOff stack .value
    | .itemOrEnd, stack, t =>
      match t.scalar? with
      | some v => build (.separator v) stack ts
      | none => Expected.breakOff stack .itemOrEnd
    | expected, stack, _ => expected.breakOff stack

def Document.ofTokens (ts : List Token) : Document := build .value [] ts

/-- The document that bytes spell. -/
def Document.read (bs : Bytes) : Document := .ofTokens (tokens bs)

end JobDashboard.Json
