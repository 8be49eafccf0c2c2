/-
  Decodables.Json.Fault — why a text is not a JSON document, and where that shows.

  A reader only knows what it has not read yet, so it reports a place by the number of
  bytes left (`Fault`). `Fault.locate` turns that into a line and a column once the
  whole text is at hand. Lines count from 1; a column is the number of bytes between
  the line's start and the place, so it is 0 right after a line feed.
-/

namespace Decodables.Json

inductive Reason where
  | endInValue
  | endInString
  | endInList
  | endInObject
  | expectedValue
  | expectedIdent
  | expectedColon
  | expectedListCommaOrEnd
  | expectedObjectCommaOrEnd
  | keyNotString
  | invalidNumber
  | invalidEscape
  | controlCharacter
  | loneSurrogate
  | endOfHexEscape
  | trailingComma
  | trailingCharacters
  | tooDeep
  /-- Something else stands where a numeral should be given as a string. -/
  | notNumeralText (found : String)
  deriving DecidableEq, Repr

def Reason.message : Reason → String
  | .endInValue => "EOF while parsing a value"
  | .endInString => "EOF while parsing a string"
  | .endInList => "EOF while parsing a list"
  | .endInObject => "EOF while parsing an object"
  | .expectedValue => "expected value"
  | .expectedIdent => "expected ident"
  | .expectedColon => "expected `:`"
  | .expectedListCommaOrEnd => "expected `,` or `]`"
  | .expectedObjectCommaOrEnd => "expected `,` or `\x7d`"
  | .keyNotString => "key must be a string"
  | .invalidNumber => "invalid number"
  | .invalidEscape => "invalid escape"
  | .controlCharacter => "control character (\\u0000-\\u001F) found while parsing a string"
  | .loneSurrogate => "lone leading surrogate in hex escape"
  | .endOfHexEscape => "unexpected end of hex escape"
  | .trailingComma => "trailing comma"
  | .trailingCharacters => "trailing characters"
  | .tooDeep => "recursion limit exceeded"
  | .notNumeralText found => "invalid type: " ++ found ++ ", expected string containing a number"

structure ReadError where
  reason : Reason
  line : Nat
  column : Nat
  deriving DecidableEq, Repr

def ReadError.message (e : ReadError) : String :=
  e.reason.message ++ " at line " ++ toString e.line ++ " column " ++ toString e.column

inductive Fault where
  /-- The reader gave up with `unread` bytes left. With `ahead` the place is one byte
      further on, past the byte that was only looked at. -/
  | stopped (reason : Reason) (unread : Nat) (ahead : Bool)
  /-- A numeral given as a string was refused, at a place of that string. -/
  | inNumeral (error : ReadError)
  deriving DecidableEq, Repr

def byteCount (s : List Char) : Nat := s.foldr (fun c n => c.utf8Size + n) 0

namespace Fault

def here (reason : Reason) (rest : List Char) : Fault := .stopped reason (byteCount rest) false

/-- A fault of the next byte, which was looked at and not taken. -/
def next (reason : Reason) (rest : List Char) : Fault := .stopped reason (byteCount rest) true

/-- A fault of the first byte of `rest`, which was taken. -/
def taken (reason : Reason) (rest : List Char) : Fault := .stopped reason (byteCount rest - 1) false

/-- The line and the column of a byte offset, counting on from a line and a column. -/
def lineColumn : List Char → Nat → Nat → Nat → Nat × Nat
  | [], _, line, column => (line, column)
  | _, 0, line, column => (line, column)
  | c :: rest, offset + 1, line, column =>
    if c = '\n' then lineColumn rest offset (line + 1) 0
    else lineColumn rest (offset + 1 - c.utf8Size) line (column + min (offset + 1) c.utf8Size)

def locate (text : List Char) : Fault → ReadError
  | .inNumeral error => error
  | .stopped reason unread ahead =>
    let size := byteCount text
    let offset := if ahead then min size (size - unread + 1) else size - unread
    let place := lineColumn text offset 1 0
    ⟨reason, place.1, place.2⟩

end Fault

end Decodables.Json
