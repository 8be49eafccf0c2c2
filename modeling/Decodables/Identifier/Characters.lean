/-
  Decodables.Identifier.Characters — the characters that names are made of.

  Alphabetic characters, decimal digits and the underscore may stand anywhere in a
  derived name, other marks anywhere but at its head. All other characters separate
  words.
-/

import Decodables.Unicode.Alphabetic
import Decodables.Unicode.DecimalDigit
import Decodables.Unicode.Mark

namespace Decodables.Identifier

open Unicode

/-- Whether a derived name may start with the character. -/
def isLeading (c : Char) : Bool := isAlphabetic c || isDecimalDigit c || c == '_'

def isNameChar (c : Char) : Bool := isLeading c || isMark c

def isSeparator (c : Char) : Bool := !isNameChar c

end Decodables.Identifier
