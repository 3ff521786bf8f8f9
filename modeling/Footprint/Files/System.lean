import Footprint.Assoc
import Footprint.Files.Path
import Footprint.Text.Bytes

/-! # A file system as seen from a working directory

Directories above the working directory count as existing; what else they hold is not known. -/
namespace Footprint

inductive OsError
  | notFound
  | permissionDenied
  | alreadyExists
  | notDirectory
  | isDirectory
  | noSpace
  | nameTooLong
  | linkLoop
  | nulInName
deriving Repr, DecidableEq

/-- The number and the name that the system has for an error; a name with a zero byte does not get as
far as the system. -/
def OsError.code? : OsError → Option (Nat × String)
  | .notFound => some (2, "NotFound")
  | .permissionDenied => some (13, "PermissionDenied")
  | .alreadyExists => some (17, "AlreadyExists")
  | .notDirectory => some (20, "NotADirectory")
  | .isDirectory => some (21, "IsADirectory")
  | .noSpace => some (28, "StorageFull")
  | .nameTooLong => some (36, "InvalidFilename")
  | .linkLoop => some (40, "FilesystemLoop")
  | .nulInName => none

def OsError.text : OsError → String
  | .notFound => "No such file or directory"
  | .permissionDenied => "Permission denied"
  | .alreadyExists => "File exists"
  | .notDirectory => "Not a directory"
  | .isDirectory => "Is a directory"
  | .noSpace => "No space left on device"
  | .nameTooLong => "File name too long"
  | .linkLoop => "Too many levels of symbolic links"
  | .nulInName => "file name contained an unexpected NUL byte"

def OsError.message (e : OsError) : String := match e.code? with
  | some (code, _) => s!"{e.text} (os error {code})"
  | none => e.text

/-- A device keeps nothing of what is written to it, and a full one takes nothing. -/
inductive Entry
  | directory
  | file (content : Bytes)
  | device (full : Bool)
deriving Repr, DecidableEq

def Entry.read : Entry → Except OsError Bytes
  | .file content => .ok content
  | .directory => .error .isDirectory
  | .device _ => .ok []

/-- The way from the working directory to an entry: names, behind as many `..` as lead upwards, or
behind a `/` for the root. -/
abbrev Place := List String

/-- A link is another name of a place. It is listed with the place that it leads to in the end; one
that leads to itself goes round. -/
structure FileSystem where
  entries : Assoc Place Entry
  links : Assoc Place Place := []
deriving Repr, DecidableEq

namespace FileSystem

/-- What is there before anything has been made. -/
def base : FileSystem :=
  { entries := [
    (["/"], .directory),
    (["/", "bin"], .directory),
    (["/", "bin", "false"], .file []),
    (["/", "bin", "sh"], .file []),
    (["/", "bin", "true"], .file []),
    (["/", "dev"], .directory),
    (["/", "dev", "full"], .device true),
    (["/", "dev", "null"], .device false)] }

/-- The working directory, and those above it. -/
def isAbove (p : Place) : Bool := p.all (· = "..")

def entry? (fs : FileSystem) (p : Place) : Option Entry :=
  if isAbove p then some .directory else fs.entries.find? p

def put (fs : FileSystem) (p : Place) (e : Entry) : FileSystem :=
  { fs with entries := fs.entries.insert p e }

def Linkless (fs : FileSystem) : Prop := fs.links = []

/-! ## Finding entries -/

/-- Limits, in bytes, on a name and on a path with the zero byte behind it. -/
def nameLimit : Nat := 255
def pathLimit : Nat := 4096

/-- The parts of a path, if it may be looked up at all. -/
def partsOf (path : String) : Except OsError (List String) :=
  if path.toList.contains '\x00' then .error .nulInName
  else if path = "" then .error .notFound
  else if pathLimit ≤ path.utf8ByteSize then .error .nameTooLong
  else .ok ((Path.parts path.toList).map String.ofList)

/-- Where the search for a path begins. -/
def start (path : String) : Place := if Path.isAbsolute path then ["/"] else []

def up (dir : Place) : Place :=
  if isAbove dir then ".." :: dir else if dir = ["/"] then dir else dir.dropLast

/-- The place that a name stands for. -/
def follow (fs : FileSystem) (p : Place) : Except OsError Place := match fs.links.find? p with
  | none => .ok p
  | some q => if q = p then .error .linkLoop else .ok q

/-- Where the parts of a path lead from the directory `dir`; only the last one may be something
other than a directory. -/
def walk (fs : FileSystem) (dir : Place) : List String → Except OsError Place
  | [] => .ok dir
  | p :: ps =>
    if p = "" ∨ p = "." then walk fs dir ps
    else if p = ".." then walk fs (up dir) ps
    else if nameLimit < p.utf8ByteSize then .error .nameTooLong
    else match fs.follow (dir ++ [p]) with
      | .error e => .error e
      | .ok q => match fs.entry? q with
        | none => .error .notFound
        | some .directory => walk fs q ps
        | some _ => if ps = [] then .ok q else .error .notDirectory

def resolve (fs : FileSystem) (path : String) : Except OsError Place := do
  fs.walk (start path) (← partsOf path)

def lookup (fs : FileSystem) (path : String) : Except OsError Entry := do
  match fs.entry? (← fs.resolve path) with
  | some e => .ok e
  | none => .error .notFound

def exists? (fs : FileSystem) (path : String) : Bool :=
  match fs.lookup path with
  | .ok _ => true
  | .error _ => false

def isDirectory (fs : FileSystem) (path : String) : Bool :=
  match fs.lookup path with
  | .ok .directory => true
  | _ => false

def contents (fs : FileSystem) (path : String) : Except OsError Bytes := do
  (← fs.lookup path).read

/-! ## Making entries -/

/-- Where a new entry would stand, and whether a slash follows its name. A path that ends in a
directory's own name, or its parent's, has no place for one: the result is none. -/
def newPlace (fs : FileSystem) (path : String) : Except OsError (Option Place × Bool) := do
  let parts ← partsOf path
  let slash := parts.getLast? = some ""
  match (parts.filter (· ≠ "")).reverse with
  | [] => .ok (none, slash)
  | name :: before =>
    let dir ← fs.walk (start path) (before.reverse ++ [""])
    if name = "." ∨ name = ".." then .ok (none, slash)
    else if nameLimit < name.utf8ByteSize then .error .nameTooLong
    else .ok (some (dir ++ [name]), slash)

/-- The place of a file that is written under the name `p`. What a link leads to may be missing, but
not the directory for it. -/
def target (fs : FileSystem) (p : Place) : Except OsError Place := do
  let q ← fs.follow p
  match fs.entry? q with
  | some .directory => .error .isDirectory
  | some _ => .ok q
  | none =>
    if q = p then .ok p
    else match fs.entry? q.dropLast with
      | some .directory => .ok q
      | some _ => .error .notDirectory
      | none => .error .notFound

/-- Where a file may be written. -/
def filePlace (fs : FileSystem) (path : String) : Except OsError Place := do
  match ← fs.newPlace path with
  | (none, _) | (_, true) => .error .isDirectory
  | (some p, false) => fs.target p

def fill (fs : FileSystem) (p : Place) (content : Bytes) : Except OsError FileSystem :=
  match fs.entry? p with
  | some (.device full) => if full && content ≠ [] then .error .noSpace else .ok fs
  | _ => .ok (fs.put p (.file content))

/-- Writes a file, in place of what it held. -/
def store (fs : FileSystem) (path : String) (content : Bytes) : Except OsError FileSystem := do
  fs.fill (← fs.filePlace path) content

/-- Whether there is an entry or a link under a name. -/
def isTaken (fs : FileSystem) (p : Place) : Bool := (fs.entry? p).isSome || fs.links.contains p

def createDir (fs : FileSystem) (path : String) : Except OsError FileSystem := do
  match ← fs.newPlace path with
  | (none, _) => .error .alreadyExists
  | (some p, _) => if fs.isTaken p then .error .alreadyExists else .ok (fs.put p .directory)

/-- A directory that is there already is no error. -/
def ensureDir (fs : FileSystem) (path : String) : Except OsError FileSystem :=
  match fs.createDir path with
  | .error e => if fs.isDirectory path then .ok fs else .error e
  | result => result

/-- Creates a directory, of which the path's components are given from the last to the first, and
those above it. What has been created stays, also after an error. -/
def createAll (fs : FileSystem) (path : String) :
    List Path.Component → Except OsError Unit × FileSystem
  | [] => (.ok (), fs)
  | _ :: above => match fs.ensureDir path with
    | .ok fs => (.ok (), fs)
    | .error .notFound => match createAll fs (Path.ofComponents above.reverse) above with
      | (.error e, fs) => (.error e, fs)
      | (.ok (), fs) => match fs.ensureDir path with
        | .ok fs => (.ok (), fs)
        | .error e => (.error e, fs)
    | .error e => (.error e, fs)

def createDirAll (fs : FileSystem) (path : String) : Except OsError Unit × FileSystem :=
  fs.createAll path (Path.components path).reverse

/-! ## Removing and comparing -/

/-- Without the entry or the link at a place, and what stands below it. -/
def remove (fs : FileSystem) (p : Place) : FileSystem where
  entries := fs.entries.filter fun (q, _) => !(p.isPrefixOf q)
  links := fs.links.filter fun (q, _) => !(p.isPrefixOf q)

/-- Places below the working directory. -/
def isInside (p : Place) : Bool := p.head?.all fun name => name ≠ ".." && name ≠ "/"

/-- What stands below the working directory and is not in `before`, or differs there. -/
def changesSince (before fs : FileSystem) : Assoc Place Entry :=
  fs.entries.filter fun (p, e) => isInside p && before.entry? p ≠ some e

end FileSystem
end Footprint
