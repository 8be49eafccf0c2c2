/-
  Decodables.Quoted — a text as messages show it: between double quotes, with whatever
  would not show replaced by an escape.

  NUL, tab, line feed, carriage return, the double quote and the backslash have short
  escapes. Other unprintable characters, and those that would merge with the character
  before them, are given by their code point in hexadecimal.
-/

import Decodables.Unicode.GraphemeExtend
import Decodables.Unicode.Unprintable

namespace Decodables

open Unicode

def codePointEscape (c : Char) : List Char :=
  ['\\', 'u', '\x7b'] ++ Nat.toDigits 16 c.toNat ++ ['\x7d']

/-- Whether the character would merge with the one before it. The halfwidth sound marks
    extend what is before them but have a shape and a cell of their own. -/
def mergesBackward (c : Char) : Bool := isGraphemeExtend c && c != '\uff9e' && c != '\uff9f'

def quotedChar (c : Char) : List Char :=
  match c with
  | '\x00' => ['\\', '0']
  | '\t' => ['\\', 't']
  | '\n' => ['\\', 'n']
  | '\r' => ['\\', 'r']
  | '"' => ['\\', '"']
  | '\\' => ['\\', '\\']
  | c => if mergesBackward c || isUnprintable c then codePointEscape c else [c]

def quoted (s : String) : String := String.ofList ('"' :: (s.toList.flatMap quotedChar ++ ['"']))

end Decodables
