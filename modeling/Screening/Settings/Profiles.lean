import Screening.Files
import Screening.Settings
import Screening.Settings.Merge
import Screening.Yaml.Reader

/-!
# Settings from files

Settings are read from a file over which profiles may be laid. The profiles of a file are the files
in the directory `profiles` beside it whose names end in `.yaml`.
-/

namespace Screening.Settings

def profileSuffix : String := ".yaml"

/-- The directory of the profiles of a file. -/
def profileDirectory (file : FilePath) : FilePath := file.parent.append "profiles"

/-- The file of a profile. -/
def profileFile (file : FilePath) (profile : String) : FilePath :=
  (profileDirectory file).append (profile ++ profileSuffix)

/-- A file's name without what follows its last dot, if something stands on both sides of it. -/
def stem (name : List Char) : List Char :=
  let last := (name.reverse.takeWhile (· != '.')).length
  let before := name.length - last - 1
  if name.contains '.' && 0 < before && 0 < last then name.take before else name

/-- The names of the profiles of a file, in order. -/
def profileNames (tree : FileTree) (file : FilePath) : List String :=
  ((((tree.names (profileDirectory file)).map String.toList).filter
      (profileSuffix.toList.isSuffixOf ·)).map fun name => String.ofList (stem name)).mergeSort
    (fun a b => decide (a ≤ b))

inductive LoadError where
  | missing (path : String)
  | directory (path : String)
  | throughFile (path : String)
  | tooLong (path : String)
  /-- A path holds a character that no file name can have. -/
  | noPath
  | noProfile (name : String)
  | malformed (fault : Yaml.Fault)
  /-- The document is not a mapping of sections. -/
  | noMapping (path : String)
  | settings (error : ReadError)

def LoadError.kind : LoadError → ErrorKind
  | missing _ | noProfile _ => .missingFile
  | directory _ => .directory
  | throughFile _ => .notDirectory
  | tooLong _ => .system
  | noPath | noMapping _ => .value
  | malformed fault => fault.kind
  | settings error => error.kind

def LoadError.message : LoadError → Text
  | missing path => "[Errno 2] No such file or directory: " ++ Text.quote path
  | directory path => "[Errno 21] Is a directory: " ++ Text.quote path
  | throughFile path => "[Errno 20] Not a directory: " ++ Text.quote path
  | tooLong path => "[Errno 36] File name too long: " ++ Text.quote path
  | noPath => "embedded null byte"
  | noProfile name => "Profile not found: " ++ name
  | malformed fault => fault.message
  | noMapping path => "Config file " ++ path ++ " must contain a mapping at top level"
  | settings error => error.message

/-- The mapping that a file holds. An empty document is an empty mapping. -/
def readMapping (tree : FileTree) (file : FilePath) : Except LoadError (List (Atom × Data)) :=
  let path := file.text tree.root
  if path.toList.contains '\x00' then .error .noPath
  else
    match tree.find file with
    | .missing => .error (.missing path)
    | .directory => .error (.directory path)
    | .throughFile => .error (.throughFile path)
    | .tooLong => .error (.tooLong path)
    | .file text =>
      match Yaml.read text with
      | .error fault => .error (.malformed fault)
      | .ok (.map entries) => .ok entries
      | .ok (.atom .null) => .ok []
      | .ok _ => .error (.noMapping path)

/-- Whether a path leads to anything, or might if it were not too long. -/
def leadsSomewhere (tree : FileTree) (file : FilePath) : Bool :=
  match tree.find file with
  | .missing | .throughFile => false
  | _ => !(file.text tree.root).toList.contains '\x00'

/-- The mapping of a profile of a file. -/
def readProfile (tree : FileTree) (file : FilePath) (profile : String) :
    Except LoadError (List (Atom × Data)) :=
  let path := profileFile file profile
  if leadsSomewhere tree path then readMapping tree path else .error (.noProfile profile)

/-- Read a file and lay its profiles over it one after the other. -/
def readLayers (tree : FileTree) (file : FilePath) (profiles : List String) :
    Except LoadError (List (Atom × Data)) := do
  let base ← readMapping tree file
  profiles.foldlM (fun lower profile => do
    let upper ← readProfile tree file profile
    return merge lower upper) base

/-- The warnings about what is ignored, and the settings of a file under some profiles. -/
def load (tree : FileTree) (file : FilePath) (profiles : List String) :
    List Text × Except LoadError Settings :=
  match readLayers tree file profiles with
  | .error e => ([], .error e)
  | .ok merged =>
    let (warnings, outcome) := read (.map merged)
    (warnings, outcome.mapError LoadError.settings)

end Screening.Settings
