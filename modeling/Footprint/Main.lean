import Footprint.CommandLine.Program
import Footprint.Shell.Launch

/-! # The program at a terminal

The working directory is read before the run, and what the run has changed is written back after
it. -/
namespace Footprint

/-- Adds an entry of a directory, and what stands below it. -/
partial def gather (place : Place) (fs : FileSystem) (e : IO.FS.DirEntry) : IO FileSystem := do
  let place := place ++ [e.fileName]
  if ← e.path.isDir then
    (← e.path.readDir).foldlM (gather place) (fs.put place .directory)
  else
    return fs.put place (.file (← IO.FS.readBinFile e.path).data.toList)

end Footprint

open Footprint in
def main (args : List String) : IO UInt32 := do
  let here ← IO.currentDir
  let before ← (← here.readDir).foldlM (gather []) FileSystem.base
  let ending := CommandLine.run Shell.launch args (← IO.getEnv "RUST_LOG") before
  for (place, entry) in before.changesSince ending.files do
    let path := place.foldl (· / ·) here
    match entry with
    | .file content => IO.FS.writeBinFile path ⟨content.toArray⟩
    | .directory => IO.FS.createDirAll path
    | .device _ => pure ()
  IO.print (String.join (ending.log.map Log.Event.line) ++ ending.stdout)
  IO.eprint ending.stderr
  return UInt32.ofNat ending.code
