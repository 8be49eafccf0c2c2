/-
  Decodables.Identifier.Reserved — names that Swift or the generated code has taken.

  A keyword can name a member if it is written between back-quotes. A reserved type name
  would shadow the table of keys or a type that members refer to.
-/

namespace Decodables.Identifier

/-- The words that need back-quotes to name a member. -/
def keywords : List String :=
  ["Any", "Self", "as", "associatedtype", "await", "break", "case", "catch", "class", "continue",
   "default", "defer", "deinit", "do", "else", "enum", "extension", "fallthrough", "false",
   "fileprivate", "for", "func", "guard", "if", "import", "in", "init", "inout", "internal", "is",
   "let", "nil", "open", "operator", "precedencegroup", "private", "protocol", "public", "repeat",
   "rethrows", "return", "self", "static", "struct", "subscript", "super", "switch", "throw",
   "throws", "true", "try", "typealias", "var", "where", "while"]

def reservedTypeNames : List String :=
  ["CodingKeys", "String", "Int", "Float", "Bool", "Any", "Self", "Type", "Protocol", "Optional",
   "Array"]

def isReservedTypeName (name : String) : Bool := reservedTypeNames.contains name

def declared (identifier : String) : String :=
  if keywords.contains identifier then "`" ++ identifier ++ "`" else identifier

end Decodables.Identifier
