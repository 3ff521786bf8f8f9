import Footprint.Command.Basic

/-! # The commands that a script may use -/
namespace Footprint.Shell

/-- What a command leaves. -/
structure Outcome where
  files : FileSystem
  output : List Char
  status : Nat
  /-- How the script ends with this command, if it does. -/
  ending : Option ExitStatus
deriving Repr

def quiet (fs : FileSystem) (status : Nat) : Outcome := ⟨fs, [], status, none⟩

def printed (fs : FileSystem) (output : List Char) : Outcome := ⟨fs, output, 0, none⟩

/-! ## Text -/

def escapes : List (Char × Char) :=
  [('a', '\x07'), ('b', '\x08'), ('f', '\x0c'), ('n', '\n'), ('r', '\r'), ('t', '\t'),
    ('v', '\x0b'), ('\\', '\\')]

def unescape : List Char → List Char
  | '\\' :: c :: cs => match escapes.lookup c with
    | some d => d :: unescape cs
    | none => '\\' :: c :: unescape cs
  | c :: cs => c :: unescape cs
  | [] => []

def echo : List String → List Char
  | "-n" :: args => unescape (" ".intercalate args).toList
  | args => unescape (" ".intercalate args).toList ++ ['\n']

/-- One pass over a format, and the arguments that are left. -/
def formatOnce : List Char → List String → List Char × List String
  | '%' :: '%' :: f, args => let (out, rest) := formatOnce f args; ('%' :: out, rest)
  | '%' :: c :: f, args =>
    let value := args.head?.getD (if c = 's' then "" else "0")
    let (out, rest) := formatOnce f args.tail
    (value.toList ++ out, rest)
  | c :: f, args => let (out, rest) := formatOnce f args; (c :: out, rest)
  | [], args => ([], args)

/-- Passes over a format until no argument is left, or a pass takes none. -/
def format (f : List Char) (args : List String) : List Char :=
  let (out, rest) := formatOnce f args
  if rest.isEmpty ∨ args.length ≤ rest.length then out else out ++ format f rest
termination_by args.length

def printf (fs : FileSystem) : List String → Outcome
  | [] => quiet fs 2
  | f :: args => printed fs (format (unescape f.toList) args)

/-! ## Questions -/

def sizeAt (fs : FileSystem) (path : String) : Nat := match fs.contents path with
  | .ok content => content.length
  | .error _ => 0

def isFile (fs : FileSystem) (path : String) : Bool := match fs.lookup path with
  | .ok (.file _) => true
  | _ => false

def compare? (op : String) (a b : Int) : Option Bool :=
  match op with
  | "-eq" => some (a = b)
  | "-ne" => some (a ≠ b)
  | "-lt" => some (a < b)
  | "-le" => some (a ≤ b)
  | "-gt" => some (a > b)
  | "-ge" => some (a ≥ b)
  | _ => none

def holds? (fs : FileSystem) : List String → Option Bool
  | [] => some false
  | [s] => some (s ≠ "")
  | "!" :: rest => (holds? fs rest).map (!·)
  | ["-e", p] | ["-r", p] | ["-w", p] => some (fs.exists? p)
  | ["-f", p] => some (isFile fs p)
  | ["-d", p] => some (fs.isDirectory p)
  | ["-s", p] => some (0 < sizeAt fs p)
  | ["-n", s] => some (s ≠ "")
  | ["-z", s] => some (s = "")
  | [a, "=", b] => some (a = b)
  | [a, "!=", b] => some (a ≠ b)
  | [a, op, b] => do compare? op (← a.toInt?) (← b.toInt?)
  | _ => none

def test (fs : FileSystem) (args : List String) : Outcome :=
  quiet fs (match holds? fs args with | some true => 0 | some false => 1 | none => 2)

/-! ## Files -/

/-- Changes each path in turn; one that fails does not stop the others. -/
def each (change : FileSystem → String → Except OsError FileSystem) (fs : FileSystem)
    (paths : List String) : Outcome :=
  paths.foldl (fun o path => match change o.files path with
    | .ok fs => { o with files := fs }
    | .error _ => { o with status := 1 }) (quiet fs 0)

/-- The same for at least one path. -/
def eachOf (change : FileSystem → String → Except OsError FileSystem) (fs : FileSystem)
    (paths : List String) : Outcome :=
  if paths = [] then quiet fs 1 else each change fs paths

/-- Where a copy of `source` goes. -/
def target (fs : FileSystem) (source target : String) : String :=
  if fs.isDirectory target then Path.join target ((Path.fileName? source).getD "") else target

def copy (into : String) (fs : FileSystem) (source : String) : Except OsError FileSystem := do
  fs.store (target fs source into) (← fs.contents source)

def move (into : String) (fs : FileSystem) (source : String) : Except OsError FileSystem := do
  return (← copy into fs source).remove (← fs.resolve source)

/-- Brings files to the last path, which is a directory if there are several. -/
def bring (change : String → FileSystem → String → Except OsError FileSystem) (fs : FileSystem)
    (paths : List String) : Outcome :=
  match paths.reverse with
  | into :: source :: more =>
    if more = [] || fs.isDirectory into then each (change into) fs (more.reverse ++ [source])
    else quiet fs 1
  | _ => quiet fs 1

def concat (fs : FileSystem) (paths : List String) : Outcome :=
  let found := paths.filterMap fun path => (fs.contents path).toOption
  match Text.ofBytes? found.flatten with
  | some text =>
    { printed fs text.toList with status := if found.length = paths.length then 0 else 1 }
  | none => quiet fs 1

def touch (fs : FileSystem) (path : String) : Except OsError FileSystem :=
  if fs.exists? path then .ok fs else fs.store path []

def makeAll (fs : FileSystem) (path : String) : Except OsError FileSystem :=
  match fs.createDirAll path with
  | (.ok (), fs) => .ok fs
  | (.error e, _) => .error e

/-- Removes an entry with what stands below it; the working directory and those above stay. -/
def removeAll (fs : FileSystem) (path : String) : Except OsError FileSystem := do
  match ← fs.newPlace path with
  | (none, _) => .error .permissionDenied
  | (some p, _) => if fs.isTaken p then .ok (fs.remove p) else .error .notFound

def removeFile (fs : FileSystem) (path : String) : Except OsError FileSystem :=
  if fs.isDirectory path then .error .isDirectory else removeAll fs path

/-- What is not there need not be removed. -/
def forced (change : FileSystem → String → Except OsError FileSystem) (fs : FileSystem)
    (path : String) : Except OsError FileSystem :=
  if fs.exists? path then change fs path else .ok fs

/-! ## Ends -/

def exit (fs : FileSystem) (status : Nat) : List String → Outcome
  | [] => ⟨fs, [], status, some (.exited status)⟩
  | n :: _ => match n.toNat? with
    | some n => ⟨fs, [], n % 256, some (.exited (n % 256))⟩
    | none => ⟨fs, [], 2, some (.exited 2)⟩

/-- Signals have numbers up to this one. -/
def lastSignal : Nat := 64

/-- Signals that leave a process as it is: child, continue, urgent, window. -/
def harmless : List Nat := [0, 17, 18, 23, 28]

def signalNumber? (name : String) : Option Nat :=
  match name.toNat? with
  | some n => some n
  | none => (List.range 32).find? fun n =>
      0 < n && ExitStatus.signalName? n = some name

def send (fs : FileSystem) (signal process own : String) : Outcome :=
  match signalNumber? signal with
  | none => quiet fs 2
  | some n =>
    if lastSignal < n then quiet fs 2
    else if process ≠ own then quiet fs 1
    else if harmless.contains n then quiet fs 0
    else ⟨fs, [], 128 + n, some (.killed n)⟩

def kill (fs : FileSystem) (own : String) : List String → Outcome
  | ["-s", signal, process] => send fs signal process own
  | [option, process] => send fs (.ofList (option.toList.drop 1)) process own
  | [process] => send fs "TERM" process own
  | _ => quiet fs 2

/-- Runs a command by its name; one that is not known gives 127. -/
def command (fs : FileSystem) (own : String) (status : Nat) (name : String) (args : List String) :
    Outcome :=
  match name, args with
  | ":", _ | "true", _ => quiet fs 0
  | "false", _ => quiet fs 1
  | "echo", args => printed fs (echo args)
  | "printf", args => printf fs args
  | "test", args => test fs args
  | "[", args => if args.getLast? = some "]" then test fs args.dropLast else quiet fs 2
  | "cp", paths => bring copy fs paths
  | "mv", paths => bring move fs paths
  | "cat", paths => concat fs paths
  | "touch", paths => eachOf touch fs paths
  | "mkdir", "-p" :: paths => eachOf makeAll fs paths
  | "mkdir", paths => eachOf FileSystem.createDir fs paths
  | "rm", "-f" :: paths => each (forced removeFile) fs paths
  | "rm", "-rf" :: paths => each (forced removeAll) fs paths
  | "rm", "-r" :: paths => eachOf removeAll fs paths
  | "rm", paths => eachOf removeFile fs paths
  | "sleep", _ => quiet fs 0
  | "exit", args => exit fs status args
  | "kill", args => kill fs own args
  | _, _ => quiet fs 127

end Footprint.Shell
