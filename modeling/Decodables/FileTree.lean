/-
  Decodables.FileTree — files and directories, and what programs do to them.

  A tree is a list of entries by their places. The root is a directory and so is the
  home, where names start that do not start at the root. Reading and writing follow a
  name from segment to segment through directories that exist.
-/

import Decodables.FileTree.Fault
import Decodables.FileTree.Pathname

namespace Decodables

/-- The names on the way up to the root, the entry's own first. The root is `[]`. -/
abbrev Place := List String

/-- Contents are compared byte by byte. -/
instance instDecidableEqContent : DecidableEq ByteArray := ByteArray.instDecidableEq

inductive Entry where
  | directory
  | file (content : ByteArray)
  deriving DecidableEq

structure FileTree where
  /-- Where relative names start. -/
  home : Place
  entries : List (Place × Entry)
  deriving DecidableEq

inductive Destination where
  /-- A directory that exists, named by a dot, two dots or the root. -/
  | directory (place : Place)
  /-- A name in a directory that exists. With `slash` only a directory may bear it. -/
  | within (parent : Place) (name : String) (slash : Bool)
  deriving DecidableEq, Repr

namespace FileTree

def entry? (t : FileTree) (p : Place) : Option Entry :=
  if p.isEmpty then some .directory else t.entries.lookup p

def put (t : FileTree) (p : Place) (e : Entry) : FileTree :=
  { t with entries := (p, e) :: t.entries.filter (·.1 != p) }

def enter (t : FileTree) (here : Place) (segment : String) : Except FileFault Place :=
  if segment = "" ∨ segment = "." then .ok here
  else if segment = ".." then .ok here.tail
  else
    match t.entry? (segment :: here) with
    | some .directory => .ok (segment :: here)
    | some (.file _) => .error .notDirectory
    | none => .error .missing

/-- The directory that segments lead to, the last segment first. -/
def descend (t : FileTree) (start : Place) : List String → Except FileFault Place
  | [] => .ok start
  | segment :: before => do
    let here ← t.descend start before
    t.enter here segment

def find (t : FileTree) (name : String) : Except FileFault Destination :=
  let p := Pathname.ofText name
  let start := if p.rooted then [] else t.home
  if name.isEmpty then .error .missing
  else
    -- slashes at the end name nothing, but then only a directory may bear the name
    match p.segments.dropWhile (· = "") with
    | [] => .ok (.directory start)
    | last :: before => do
      let here ← t.descend start before
      if last = "." then .ok (.directory here)
      else if last = ".." then .ok (.directory here.tail)
      else .ok (.within here last (p.segments.head? = some ""))

def read (t : FileTree) (name : String) : Except FileFault ByteArray := do
  match ← t.find name with
  | .directory _ => .error .isDirectory
  | .within parent last slash =>
    match t.entry? (last :: parent) with
    | some .directory => .error .isDirectory
    | some (.file content) => if slash then .error .notDirectory else .ok content
    | none => .error .missing

def isDirectory (t : FileTree) (name : String) : Bool :=
  match t.find name with
  | .ok (.directory _) => true
  | .ok (.within parent last _) => t.entry? (last :: parent) = some .directory
  | .error _ => false

def makeDirectory (t : FileTree) (name : String) : Except FileFault FileTree := do
  match ← t.find name with
  | .directory _ => .error .occupied
  | .within parent last _ =>
    match t.entry? (last :: parent) with
    | some _ => .error .occupied
    | none => .ok (t.put (last :: parent) .directory)

def write (t : FileTree) (name : String) (content : ByteArray) : Except FileFault FileTree := do
  match ← t.find name with
  | .directory _ => .error .isDirectory
  | .within parent last slash =>
    if slash then .error .isDirectory
    else
      match t.entry? (last :: parent) with
      | some .directory => .error .isDirectory
      | _ => .ok (t.put (last :: parent) (.file content))

end FileTree

end Decodables
