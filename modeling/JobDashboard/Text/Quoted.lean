import JobDashboard.Text.Extending
import JobDashboard.Text.Unprintable

/-!
# Texts between quotes

A text as it is shown in messages: quotes and backslashes are escaped, and a character that could
not be seen or would join its neighbour is given by its number.
-/

namespace JobDashboard.Text

/-- A character by its number in hexadecimal. -/
def byNumber (c : Char) : List Char :=
  '\\' :: 'u' :: '\x7b' :: (Nat.toDigits 16 c.toNat ++ ['\x7d'])

def quoteChar (c : Char) : List Char :=
  match c.toNat with
  | 0x00 => ['\\', '0']
  | 0x09 => ['\\', 't']
  | 0x0D => ['\\', 'r']
  | 0x0A => ['\\', 'n']
  | 0x5C => ['\\', '\\']
  | 0x22 => ['\\', '\x22']
  | _ => if isExtending c || isUnprintable c then byNumber c else [c]

def quote (s : String) : String :=
  String.ofList ('\x22' :: (s.toList.flatMap quoteChar ++ ['\x22']))

end JobDashboard.Text
