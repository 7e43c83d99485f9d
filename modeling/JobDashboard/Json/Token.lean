import JobDashboard.Binary64.Basic
import JobDashboard.Text.Utf8

/-!
# JSON tokens

The lexer cuts bytes into tokens without judging more than their form. A string token keeps the
bytes between its quotes and a number token its digits, so whether the string is text and the number
in range is asked only by a reader that wants the value. Bytes that form no token end the sequence
with `invalid`.
-/

namespace JobDashboard.Json

/-- A number as written: all its digits as one natural, how many of them stand after the point, and
the exponent if one is written. -/
structure NumberLiteral where
  negative : Bool
  digits : Nat
  fractionDigits : Nat
  exponent : Option Int
deriving DecidableEq, Inhabited

inductive Token where
  | openObject
  | closeObject
  | openArray
  | closeArray
  | colon
  | comma
  | null
  | bool (value : Bool)
  | number (literal : NumberLiteral)
  | string (raw : Bytes)
  | invalid
deriving DecidableEq, Inhabited

def isBlank (b : UInt8) : Bool := b = 0x20 || b = 0x09 || b = 0x0A || b = 0x0D

def isDigit (b : UInt8) : Bool := 0x30 ≤ b && b ≤ 0x39

def digitValue (b : UInt8) : Nat := b.toNat - 0x30

/-- The natural that decimal digits spell. -/
def digitsValue (bs : Bytes) : Nat := bs.foldl (fun n b => 10 * n + digitValue b) 0

def hexValue? (b : UInt8) : Option Nat :=
  if 0x30 ≤ b && b ≤ 0x39 then some (b.toNat - 0x30)
  else if 0x41 ≤ b && b ≤ 0x46 then some (b.toNat - 0x41 + 10)
  else if 0x61 ≤ b && b ≤ 0x66 then some (b.toNat - 0x61 + 10)
  else none

def hex4? (a b c d : UInt8) : Option Nat := do
  return (((← hexValue? a) * 16 + (← hexValue? b)) * 16 + (← hexValue? c)) * 16 + (← hexValue? d)

/-- The byte that a one-letter escape stands for. -/
def simpleEscape? (b : UInt8) : Option UInt8 :=
  match b.toNat with
  | 0x22 => some 0x22
  | 0x5C => some 0x5C
  | 0x2F => some 0x2F
  | 0x62 => some 0x08
  | 0x66 => some 0x0C
  | 0x6E => some 0x0A
  | 0x72 => some 0x0D
  | 0x74 => some 0x09
  | _ => none

/-- The content of a string up to its closing quote and what follows the quote. Control characters
and unknown escapes are refused; whether escapes name characters is left open. -/
def scanString : Bytes → Option (Bytes × Bytes)
  | [] => none
  | 0x22 :: rest => some ([], rest)
  | 0x5C :: 0x75 :: a :: b :: c :: d :: rest => do
    let _ ← hex4? a b c d
    let (content, rest) ← scanString rest
    return (0x5C :: 0x75 :: a :: b :: c :: d :: content, rest)
  | 0x5C :: e :: rest => do
    let _ ← simpleEscape? e
    let (content, rest) ← scanString rest
    return (0x5C :: e :: content, rest)
  | b :: rest =>
    if b < 0x20 || b = 0x5C then none
    else do
      let (content, rest) ← scanString rest
      return (b :: content, rest)

/-- The digits in front and what follows them. -/
def scanDigits (bs : Bytes) : Bytes × Bytes := (bs.takeWhile isDigit, bs.dropWhile isDigit)

/-- The digits after a point, if there is a point; a point without digits is refused. -/
def scanFraction : Bytes → Option (Bytes × Bytes)
  | 0x2E :: rest =>
    let (ds, rest) := scanDigits rest
    if ds.isEmpty then none else some (ds, rest)
  | bs => some ([], bs)

def scanExponentDigits (negative : Bool) (bs : Bytes) : Option (Option Int × Bytes) :=
  let (ds, rest) := scanDigits bs
  if ds.isEmpty then none
  else
    let n : Int := digitsValue ds
    some (some (if negative then -n else n), rest)

/-- The exponent, if there is one; a mark without digits is refused. -/
def scanExponent : Bytes → Option (Option Int × Bytes)
  | b :: rest =>
    if b = 0x65 || b = 0x45 then
      match rest with
      | 0x2B :: rest => scanExponentDigits false rest
      | 0x2D :: rest => scanExponentDigits true rest
      | _ => scanExponentDigits false rest
    else some (none, b :: rest)
  | [] => some (none, [])

/-- A number without its sign. A leading zero stands alone before the point. -/
def scanMagnitude (negative : Bool) (bs : Bytes) : Option (NumberLiteral × Bytes) := do
  let (whole, rest) := scanDigits bs
  if whole.isEmpty || (whole.head? == some 0x30 && whole.length ≠ 1) then none
  else
    let (fraction, rest) ← scanFraction rest
    let (exponent, rest) ← scanExponent rest
    return (⟨negative, digitsValue (whole ++ fraction), fraction.length, exponent⟩, rest)

/-- The bytes after an expected word. -/
def dropWord? : Bytes → Bytes → Option Bytes
  | [], bs => some bs
  | w :: ws, b :: bs => if w = b then dropWord? ws bs else none
  | _ :: _, [] => none

/-- The token at the front of bytes that start with no blank. -/
def scanToken? (b : UInt8) (rest : Bytes) : Option (Token × Bytes) :=
  match b.toNat with
  | 0x7B => some (.openObject, rest)
  | 0x7D => some (.closeObject, rest)
  | 0x5B => some (.openArray, rest)
  | 0x5D => some (.closeArray, rest)
  | 0x3A => some (.colon, rest)
  | 0x2C => some (.comma, rest)
  | 0x22 => (scanString rest).map fun (raw, rest) => (.string raw, rest)
  | 0x2D => (scanMagnitude true rest).map fun (n, rest) => (.number n, rest)
  | 0x6E => (dropWord? [0x75, 0x6C, 0x6C] rest).map (Token.null, ·)
  | 0x74 => (dropWord? [0x72, 0x75, 0x65] rest).map (Token.bool true, ·)
  | 0x66 => (dropWord? [0x61, 0x6C, 0x73, 0x65] rest).map (Token.bool false, ·)
  | _ => (scanMagnitude false (b :: rest)).map fun (n, rest) => (.number n, rest)

/-- The tokens of at most `fuel` bytes; every token takes at least one. -/
def tokensWithin : Nat → Bytes → List Token
  | 0, _ => []
  | _ + 1, [] => []
  | fuel + 1, b :: rest =>
    if isBlank b then tokensWithin fuel rest
    else
      match scanToken? b rest with
      | some (t, rest) => t :: tokensWithin fuel rest
      | none => [.invalid]

def tokens (bs : Bytes) : List Token := tokensWithin bs.length bs

/-- The bytes that a string's content stands for, escapes resolved. A surrogate escape is text only
as a leading one followed at once by a trailing one. -/
def unescape : Bytes → Option Bytes
  | [] => some []
  | 0x5C :: 0x75 :: a :: b :: c :: d :: rest => do
    let n ← hex4? a b c d
    if n < 0xD800 || 0xE000 ≤ n then
      return Utf8.encodeChar (Char.ofNat n) ++ (← unescape rest)
    else if 0xDC00 ≤ n then none
    else
      match rest with
      | 0x5C :: 0x75 :: e :: f :: g :: h :: rest =>
        let m ← hex4? e f g h
        if 0xDC00 ≤ m && m < 0xE000 then
          let c := Char.ofNat (0x10000 + (n - 0xD800) * 0x400 + (m - 0xDC00))
          return Utf8.encodeChar c ++ (← unescape rest)
        else none
      | _ => none
  | 0x5C :: e :: rest => do
    let b ← simpleEscape? e
    return b :: (← unescape rest)
  | b :: rest => do
    return b :: (← unescape rest)

/-- The text of a string token. -/
def stringText? (raw : Bytes) : Option String := (unescape raw).bind Utf8.decode?

/-- Digits alone, with neither a point nor an exponent. -/
def NumberLiteral.isIntegral (n : NumberLiteral) : Bool :=
  n.fractionDigits == 0 && n.exponent.isNone

/-- The number nearest to the literal; infinite when it is out of range. That literals are rounded
correctly is an assumption about the reader: one that does its best only may miss the nearest number
by a little, as for `1e-25`. -/
def NumberLiteral.toBinary64 (n : NumberLiteral) : Binary64 :=
  Binary64.ofDecimal n.negative n.digits (n.exponent.getD 0 - n.fractionDigits)

/-- The literal as an integer of at most 64 bits. A negative zero is no integer. -/
def NumberLiteral.toInt? (n : NumberLiteral) : Option Int :=
  if !n.isIntegral then none
  else if n.negative then
    if n.digits = 0 || 1 <<< 63 < n.digits then none else some (-(n.digits : Int))
  else if n.digits < UInt64.size then some n.digits
  else none

end JobDashboard.Json
