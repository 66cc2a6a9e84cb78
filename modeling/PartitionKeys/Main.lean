import PartitionKeys.CommandLine.Run
import PartitionKeys.CommandLine.TargetFile
import Std.Time

/-!
# Main — the command line program

Gathers the environment, the settings file and the file of the target's module, runs the command
line and writes what comes out.
-/

namespace PartitionKeys
namespace CommandLine

def usage : String :=
  "usage: jobspine [--version] keys [--json] [--alias NAME] MODULE:ATTRIBUTE\n"

/-! ## Surroundings -/

def readOrEmpty (path : String) : IO String := do
  try IO.FS.readFile path catch _ => return ""

/-- The settings that stand in the environment in capitals or in small letters. -/
def environment : IO (List (String × String)) := do
  let small := Settings.names.map (Settings.namespaceMark ++ ·)
  let found ← (small ++ small.map String.toUpper).mapM fun name => do
    return (← IO.getEnv name).map fun value => (name, value)
  return found.filterMap id

def timestamp : IO String := do
  let now ← Std.Time.Timestamp.now
  let t := Std.Time.DateTime.ofTimestampWithZone now .UTC
  return t.format "uuuu-MM-dd'T'HH:mm:ss.SSSSSS'Z'"

def moduleOf (args : List String) : String :=
  match Request.ofArgs args with
  | .keys r => ((World.splitPath? r.target).map (·.1)).getD ""
  | _ => ""

/-- What is around the program, or what is wrong with the classes of the target. -/
def surroundings (args : List String) : IO (Except Failure Surroundings) := do
  let moduleName := moduleOf args
  let file := TargetFile.ofText (← readOrEmpty (TargetFile.path moduleName))
  let sources : Settings.Sources :=
    { environment := ← environment, file := ← readOrEmpty ".env" }
  let now ← timestamp
  return file.declared.graph.linearized.map fun classes =>
    { sources, targets := [(moduleName, file.attributes)], classes, now }

/-! ## Output -/

def Message.shown : Message → String
  | .line l => Json.compact (.record l.fields)
  | .text s => s

def Escape.message : Escape → String
  | .failure f => f.message
  | .markup f => f.message

def write (o : Outcome) : IO UInt32 := do
  IO.print o.output
  for m in o.messages do
    IO.eprintln m.shown
  for e in o.escaped do
    IO.eprintln e.message
  if o.exitCode = 2 then IO.eprint usage
  return o.exitCode.toUInt32

end CommandLine
end PartitionKeys

def main (args : List String) : IO UInt32 := do
  match ← PartitionKeys.CommandLine.surroundings args with
  | .error f =>
      IO.eprintln f.message
      return 1
  | .ok s => PartitionKeys.CommandLine.write (PartitionKeys.CommandLine.run s args)
