import Footprint.Shell.Builtin
import Footprint.Shell.Script

/-! # A launcher for the shell and for the commands that only succeed or fail -/
namespace Footprint.Shell

/-- A script that runs: its files, its frame, and how it has ended. -/
structure Session where
  files : FileSystem
  frame : Frame
  ending : Option ExitStatus

/-- Makes the targets of some redirections, and gives the one that the first output goes to. -/
def redirect (frame : Frame) (fs : FileSystem) (out : Option String) :
    List Redirection → Except OsError (FileSystem × Option String)
  | [] => .ok (fs, out)
  | r :: rest => match r.target with
    | none => redirect frame fs (if r.fd = 1 then none else out) rest
    | some w => do
      let path := " ".intercalate (w.fields frame)
      let fs ← if r.append && fs.exists? path then pure fs else fs.store path []
      redirect frame fs (if r.fd = 1 then some path else out) rest

def deliver (fs : FileSystem) (output : List Char) : Option String → FileSystem
  | none => fs
  | some path => match fs.contents path with
    | .ok content => match fs.store path (content ++ Text.bytes (.ofList output)) with
      | .ok fs => fs
      | .error _ => fs
    | .error _ => fs

def Guard.admits (status : Nat) : Guard → Bool
  | .always => true
  | .success => status = 0
  | .failure => status ≠ 0

def Session.step (s : Session) (st : Step) : Session :=
  if s.ending.isSome || !st.guard.admits s.frame.status then s
  else match redirect s.frame s.files none st.redirections with
    | .error _ => { s with frame.status := 2 }
    | .ok (fs, out) => match st.words.flatMap (Word.fields s.frame) with
      | [] => { s with files := fs, frame.status := 0 }
      | name :: args =>
        let o := command fs ownProcess s.frame.status name args
        ⟨deliver o.files o.output out, { s.frame with status := o.status }, o.ending⟩

/-- Runs the text of a script. -/
def runText (fs : FileSystem) (script : String) (args : List String) (text : String) :
    ExitStatus × FileSystem :=
  match parse text.toList with
  | none => (.exited 2, fs)
  | some steps =>
    let s := steps.foldl Session.step ⟨fs, ⟨script, args, 0⟩, none⟩
    (s.ending.getD (.exited s.frame.status), s.files)

/-- Runs the script that the first argument names. A directory reads as an empty script. -/
def runShell (fs : FileSystem) : List String → ExitStatus × FileSystem
  | [] => (.exited 0, fs)
  | script :: args => match fs.contents script with
    | .error .isDirectory => (.exited 0, fs)
    | .error _ => (.exited 2, fs)
    | .ok content => match Text.ofBytes? content with
      | none => (.exited 127, fs)
      | some text => runText fs script args text

inductive Program | shell | succeed | fail
deriving Repr, DecidableEq

def program? (name : String) : Option Program :=
  ["sh", "true", "false"].zip [Program.shell, .succeed, .fail] |>.lookup name

/-- The program that a name or a path leads to. A name without a slash is looked for among the
system's programs only. No file below the working directory may be executed. -/
def find (fs : FileSystem) (name : String) : Except SpawnError Program :=
  if !name.toList.contains '/' then
    match program? name with
    | some p => .ok p
    | none => .error (.os .notFound)
  else match fs.resolve name with
    | .error e => .error (.os e)
    | .ok ["/", "bin", name] => match program? name with
      | some p => .ok p
      | none => .error (.os .permissionDenied)
    | .ok _ => .error (.os .permissionDenied)

def Program.run (fs : FileSystem) (args : List String) : Program → ExitStatus × FileSystem
  | .shell => runShell fs args
  | .succeed => (.exited 0, fs)
  | .fail => (.exited 1, fs)

def launch : Launcher := fun c _ fs =>
  if (c.program :: c.args).any (·.toList.contains '\x00') then (.error .nulInArgument, fs)
  else match find fs c.program with
    | .error e => (.error e, fs)
    | .ok p => let (status, fs) := p.run fs c.args; (.ok status, fs)

end Footprint.Shell
