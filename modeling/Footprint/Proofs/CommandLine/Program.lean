import Footprint.CommandLine.Program
import Footprint.Proofs.CommandLine.Arguments
import Footprint.Proofs.Files.Names
import Footprint.Proofs.Report.Aside
import Footprint.Proofs.Report.Configuration

/-!
# The program makes the report that its arguments ask for

Reading the arguments, opening the log file and reading the filter come first and may end the program.
Behind them the exit code, the message and the files are those of the report alone. The events go to
the log file while the report is made, where only a command can find them; to one that does not look,
the directives for the log make no difference.
-/
namespace Footprint.CommandLine

open FileSystem (Aside)
open Footprint.Run

/-- How a program ends that makes a report and logs nothing. -/
def ending : Except Failure Report × World → Ending
  | (.error e, w) => failed e [] w.files
  | (.ok _, w) => ⟨0, "", "", [], w.files⟩

/-- The same exit code, the same message and the same files, the log file aside. -/
structure Ending.Same (e e' : Ending) : Prop where
  code : e'.code = e.code
  stderr : e'.stderr = e.stderr
  files : Aside [logFile] e.files e'.files

theorem Ending.Same.symm {e e' : Ending} (h : e.Same e') : e'.Same e :=
  ⟨h.code.symm, h.stderr.symm, h.files.symm⟩

theorem Ending.Same.trans {e e' e'' : Ending} (h : e.Same e') (h' : e'.Same e'') : e.Same e'' :=
  ⟨h'.code.trans h.code, h'.stderr.trans h.stderr, h.files.trans h'.files⟩

/-! ## The log file -/

/-- No link leads from the log file, or to it. -/
structure LogAlone (fs : FileSystem) : Prop where
  from_it : fs.links.find? [logFile] = none
  to_it : ¬fs.IsLinked [logFile]

section LogFile

variable {fs : FileSystem}

theorem LogAlone.resolve_ne (h : LogAlone fs) {path : String} {ending : List Char}
    (hpath : ending <:+ path.toList) (hslash : '/' ∉ ending) (hlong : 2 < ending.length)
    (hne : ¬ending <:+ logFile.toList) : fs.resolve path ≠ .ok [logFile] := by
  intro hresolve
  rcases FileSystem.resolve_name hresolve hpath hslash hlong with ⟨name, hname, hending⟩ | hlinked
  · cases hname
    exact hne hending
  · exact h.to_it hlinked

end LogFile

/-! ## Behind the log file -/

variable {s : Surroundings} {args : List String} {level : Option String} {fs made : FileSystem}
  {a : Arguments} {filter : Log.Filter}

end Footprint.CommandLine
