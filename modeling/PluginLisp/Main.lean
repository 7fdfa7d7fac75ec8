import PluginLisp.CommandLine

/-!
The command itself. The text files of the working directory are read before the program runs, and
those it has written are stored afterwards.
-/

namespace PluginLisp.Main

open PluginLisp

/-- The text files of the working directory by name. What is no text is passed over. -/
def readFiles : IO (List (String × String)) := do
  let directory ← IO.currentDir
  let mut files := []
  for entry in ← directory.readDir do
    match ← (IO.FS.readFile entry.path).toBaseIO with
    | .ok content => files := (entry.fileName, content) :: files
    | .error _ => pure ()
  return files

/-- Stores the files that differ from those that were read. -/
def storeFiles (before after : Files) : IO Unit := do
  for (path, content) in after.contents do
    if before.content? path != some content then
      IO.FS.writeFile ("/".intercalate (path.take (path.length - after.workingDirectory.length)).reverse)
        content

/-- The environment variables of the process, as far as the system tells. -/
def readEnvironment : IO (Assoc String) := do
  match ← (IO.FS.readFile "/proc/self/environ").toBaseIO with
  | .ok text => return CommandLine.environmentOf text
  | .error _ => return []

/-- The time in microseconds since the start of 1970: that of the entry that the system has just made
    for the process, or else the time since the system was started. -/
def readClock : IO Nat := do
  let entry : IO IO.FS.Metadata := do (← IO.FS.realPath "/proc/self").metadata
  match ← entry.toBaseIO with
  | .ok m => return m.modified.sec.toNat * 1000000 + m.modified.nsec.toNat / 1000
  | .error _ => return (← IO.monoMsNow) * 1000

end PluginLisp.Main

open PluginLisp in
/-- Runs the command with the arguments and the standard input of the process. -/
def main (args : List String) : IO UInt32 := do
  let files := Files.ofList (← PluginLisp.Main.readFiles)
  let environment ← PluginLisp.Main.readEnvironment
  let clock ← PluginLisp.Main.readClock
  let input ← (← IO.getStdin).readToEnd
  let world : World := { state := { files, environment, clock } }
  let report := CommandLine.run world args input
  (← IO.getStdout).putStr report.output
  (← IO.getStderr).putStr report.errors
  PluginLisp.Main.storeFiles files report.world.state.files
  return report.exitCode.toUInt32
