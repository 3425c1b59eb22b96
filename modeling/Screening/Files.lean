/-!
# Trees of files

A tree holds texts under paths below a root directory. `FileTree.find` follows a path through the
directories of the tree, also upwards; of what lies outside the root only directories above it are
there.
-/

namespace Screening

structure FileTree where
  /-- How the root is written. -/
  root : String
  /-- Files, and directories that hold nothing. -/
  entries : List (List String × Option String)

/-- A path below the root, or one that leads elsewhere from the start. -/
inductive FilePath where
  | inside (steps : List String)
  /-- From the start of all files, which is written as one slash or as two. -/
  | outside (slashes : String) (steps : List String)
  deriving DecidableEq

namespace FilePath

/-- The steps of a path; empty ones and single dots lead nowhere. -/
def steps (s : String) : List String :=
  ((s.toList.splitOn '/').map String.ofList).filter fun step => step != "" && step != "."

/-- A path that starts with a slash. Only exactly two slashes are kept. -/
def absolute (s : String) : FilePath :=
  .outside (if s.startsWith "//" && !s.startsWith "///" then "//" else "/") (steps s)

def ofText (root s : String) : FilePath :=
  if s = root then .inside []
  else if s.startsWith (root ++ "/") then
    .inside (steps (String.ofList (s.toList.drop (root.length + 1))))
  else if s.startsWith "/" then .absolute s
  else .inside (steps s)

def text (root : String) : FilePath → String
  | .inside ss => "/".intercalate (root :: ss)
  | .outside slashes ss => slashes ++ "/".intercalate ss

/-- Go on from a path. -/
def append (p : FilePath) (s : String) : FilePath :=
  if s.startsWith "/" then .absolute s
  else match p with
    | .inside ss => .inside (ss ++ steps s)
    | .outside slashes ss => .outside slashes (ss ++ steps s)

/-- The path without its last step. Above the root nothing is known. -/
def parent : FilePath → FilePath
  | .inside [] => .outside "/" []
  | .inside ss => .inside ss.dropLast
  | .outside slashes ss => .outside slashes ss.dropLast

end FilePath

/-- What a path leads to. -/
inductive Found where
  | file (text : String)
  | directory
  | missing
  /-- A step leads on from a file. -/
  | throughFile
  /-- A step is longer than a name can be. -/
  | tooLong
  deriving DecidableEq

namespace FileTree

/-- The most bytes that a name has. -/
def nameLimit : Nat := 255

/-- What stands at a place. -/
def foundAt (t : FileTree) (place : List String) : Found :=
  match t.entries.lookup place with
  | some (some text) => .file text
  | some none => .directory
  | none =>
    if place.isEmpty || t.entries.any (fun e => place.isPrefixOf e.1) then .directory else .missing

/-- Outside the root nothing is known but the directories above it. -/
def foundOutside (steps : List String) : Found :=
  match steps.find? (· != "..") with
  | none => .directory
  | some step => if nameLimit < step.utf8ByteSize then .tooLong else .missing

/-- Follow steps from a place. -/
def walk (t : FileTree) : List String → List String → Found
  | place, [] => t.foundAt place
  | place, step :: rest =>
    match t.foundAt place with
    | .directory =>
      if step = ".." then (if place.isEmpty then foundOutside rest else t.walk place.dropLast rest)
      else if nameLimit < step.utf8ByteSize then .tooLong
      else t.walk (place ++ [step]) rest
    | .file _ => .throughFile
    | found => found

def find (t : FileTree) : FilePath → Found
  | .inside steps => t.walk [] steps
  | .outside _ steps => foundOutside steps

/-- The directory that steps lead to. -/
def placeOf? (t : FileTree) : List String → List String → Option (List String)
  | place, [] => if t.foundAt place = .directory then some place else none
  | place, step :: rest =>
    if t.foundAt place = .directory then
      if step = ".." then (if place.isEmpty then none else t.placeOf? place.dropLast rest)
      else t.placeOf? (place ++ [step]) rest
    else none

/-- The names in the directory at a place. -/
def namesAt (t : FileTree) (place : List String) : List String :=
  (t.entries.filterMap fun e =>
    if place.isPrefixOf e.1 then (e.1.drop place.length).head? else none).eraseDups

/-- The names in a directory; none when it is no directory. -/
def names (t : FileTree) : FilePath → List String
  | .inside steps => ((t.placeOf? [] steps).map t.namesAt).getD []
  | .outside .. => []

end FileTree

end Screening
