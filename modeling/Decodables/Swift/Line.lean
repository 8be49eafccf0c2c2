/-
  Decodables.Swift.Line — source text as lines that know how deep they stand.

  A line that is not blank is indented by four spaces for each level. Blank lines stay
  empty at every level.
-/

namespace Decodables.Swift

inductive Line where
  | blank
  | text (level : Nat) (content : String)
  deriving DecidableEq, Repr

namespace Line

def shift (levels : Nat) : Line → Line
  | .blank => .blank
  | .text level content => .text (level + levels) content

def render : Line → List Char
  | .blank => []
  | .text level content => List.replicate (4 * level) ' ' ++ content.toList

/-- Lines as one text, without a line feed at the end. -/
def unlines (lines : List Line) : String :=
  String.ofList (['\n'].intercalate (lines.map render))

end Line

end Decodables.Swift
