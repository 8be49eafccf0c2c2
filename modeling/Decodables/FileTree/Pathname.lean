/-
  Decodables.FileTree.Pathname — texts that name files and directories.

  A slash separates the segments of a name, and one at the front starts it at the root.
  An empty segment and a dot lead nowhere, two dots lead one up. Only a dot at the front
  of a name counts among its segments where its parents are asked for.
-/

namespace Decodables

structure Pathname where
  /-- Whether the name starts at the root. -/
  rooted : Bool
  /-- The segments as they are written, the last one first. -/
  segments : List String
  deriving DecidableEq, Repr

namespace Pathname

def pieces : List Char → List (List Char)
  | [] => [[]]
  | c :: rest =>
    if c = '/' then [] :: pieces rest
    else
      match pieces rest with
      | [] => [[c]]
      | piece :: others => (c :: piece) :: others

def ofText (text : String) : Pathname :=
  let reversed (s : List Char) := ((pieces s).map String.ofList).reverse
  match text.toList with
  | '/' :: rest => ⟨true, reversed rest⟩
  | all => ⟨false, reversed all⟩

def text (p : Pathname) : String :=
  (if p.rooted then "/" else "") ++ "/".intercalate p.segments.reverse

/-- Whether a segment, with `before` in front of it, is left out of account. -/
def isIdle (rooted : Bool) (segment : String) (before : List String) : Bool :=
  segment = "" || (segment = "." && (rooted || !before.isEmpty))

/-- The names that end at a segment that counts, the longest first, and the root. -/
def lineage (rooted : Bool) : List String → List Pathname
  | [] => if rooted then [⟨true, []⟩] else []
  | segment :: before =>
    if isIdle rooted segment before then lineage rooted before
    else ⟨rooted, segment :: before⟩ :: lineage rooted before

/-- The segments that count, the last one first. -/
def counted (p : Pathname) : List String :=
  (lineage p.rooted p.segments).filterMap (·.segments.head?)

/-- Whether two names differ at most in segments that do not count. -/
def agrees (p q : Pathname) : Bool := p.rooted == q.rooted && p.counted == q.counted

/-- The directories above what is named, the nearest first. -/
def parents (p : Pathname) : List Pathname := (lineage p.rooted p.segments).tail

end Pathname

end Decodables
