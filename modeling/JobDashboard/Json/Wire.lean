import JobDashboard.Binary64.Shortest

/-!
# JSON as the dashboard writes it

Compact text: members in the order given, no blanks, and only the escapes that JSON asks for.
Numbers are written with the fewest digits that read back, positionally from `1e-5` up to below
`1e16` and with an exponent beyond; a number that is not finite is null.
-/

namespace JobDashboard.Json

/-- A value to be written. -/
inductive Wire where
  | null
  | bool (value : Bool)
  | int (value : Int)
  | float (value : Binary64)
  | text (value : String)
  | list (items : List Wire)
  | record (members : List (String × Wire))
deriving Inhabited

namespace Wire

def hexDigit (n : Nat) : Char := "0123456789abcdef".toList.getD n '0'

/-- A character inside a string. -/
def escapeChar (c : Char) : List Char :=
  match c.toNat with
  | 0x22 => ['\\', '\x22']
  | 0x5C => ['\\', '\\']
  | 0x08 => ['\\', 'b']
  | 0x0C => ['\\', 'f']
  | 0x0A => ['\\', 'n']
  | 0x0D => ['\\', 'r']
  | 0x09 => ['\\', 't']
  | n => if n < 0x20 then ['\\', 'u', '0', '0', hexDigit (n / 16), hexDigit (n % 16)] else [c]

def quoted (s : String) : List Char := '\x22' :: (s.toList.flatMap escapeChar ++ ['\x22'])

/-- The characters of a decimal, which is not negative. `point` is the place of the point counted
from the first digit. -/
def decimalChars (d : Decimal) : List Char :=
  let digits := Nat.toDigits 10 d.digits
  let point := d.exponent + digits.length
  if d.digits = 0 then ['0', '.', '0']
  else if 0 ≤ d.exponent ∧ point ≤ 16 then
    digits ++ List.replicate d.exponent.toNat '0' ++ ['.', '0']
  else if 0 < point ∧ point ≤ 16 then
    digits.take point.toNat ++ '.' :: digits.drop point.toNat
  else if -5 < point ∧ point ≤ 0 then
    '0' :: '.' :: (List.replicate (-point).toNat '0' ++ digits)
  else
    let fraction := digits.drop 1
    let exponent := point - 1
    digits.take 1 ++ (if fraction.isEmpty then [] else '.' :: fraction) ++
      ['e', if exponent < 0 then '-' else '+'] ++ Nat.toDigits 10 exponent.natAbs

def floatChars (x : Binary64) : List Char :=
  if !x.isFinite then "null".toList
  else (if x.isNegative then ['-'] else []) ++ decimalChars (Decimal.shortest x)

def intChars (n : Int) : List Char :=
  (if n < 0 then ['-'] else []) ++ Nat.toDigits 10 n.natAbs

mutual

/-- The characters of a value. -/
def chars : Wire → List Char
  | .null => "null".toList
  | .bool b => if b then "true".toList else "false".toList
  | .int n => intChars n
  | .float x => floatChars x
  | .text s => quoted s
  | .list [] => ['[', ']']
  | .list (w :: ws) => '[' :: (w.chars ++ itemChars ws ++ [']'])
  | .record [] => ['\x7b', '\x7d']
  | .record ((k, w) :: ms) => '\x7b' :: (quoted k ++ ':' :: w.chars ++ memberChars ms ++ ['\x7d'])

def itemChars : List Wire → List Char
  | [] => []
  | w :: ws => ',' :: (w.chars ++ itemChars ws)

def memberChars : List (String × Wire) → List Char
  | [] => []
  | (k, w) :: ms => ',' :: (quoted k ++ ':' :: w.chars ++ memberChars ms)

end

def render (w : Wire) : String := String.ofList w.chars

/-- A value that may be absent. -/
def option {α : Type} (write : α → Wire) : Option α → Wire
  | none => .null
  | some a => write a

end Wire

end JobDashboard.Json
