/-
  Decodables.Swift.StringLiteral — string literals of Swift.

  A backslash, a double quote and control characters are escaped, and all else is
  copied. NUL, tab, line feed and carriage return have short escapes; other controls are
  given by their code point in hexadecimal.
-/

namespace Decodables.Swift.StringLiteral

/-- The general category Cc. -/
def isControl (c : Char) : Bool := c.toNat < 0x20 || (0x7F ≤ c.toNat && c.toNat ≤ 0x9F)

def escapeChar (c : Char) : List Char :=
  match c with
  | '\\' => ['\\', '\\']
  | '"' => ['\\', '"']
  | '\n' => ['\\', 'n']
  | '\r' => ['\\', 'r']
  | '\t' => ['\\', 't']
  | '\x00' => ['\\', '0']
  | c =>
    if isControl c then ['\\', 'u', '\x7b'] ++ Nat.toDigits 16 c.toNat ++ ['\x7d'] else [c]

def body (s : List Char) : List Char := s.flatMap escapeChar

def write (s : String) : String := String.ofList ('"' :: (body s.toList ++ ['"']))

end Decodables.Swift.StringLiteral
