import JobDashboard.Startup

/-!
# The command line

Starts the program in the surroundings it finds: the variables of its process and the files of its
working directory. What is logged goes to standard output and the report at the end to standard
error. The requests themselves are left to a host that can listen at an address.
-/

namespace JobDashboard

/-- The text of a file that is there. Bytes that are no UTF-8 are replaced. -/
def readFile? (name : String) : IO (Option String) := do
  try
    return some (Utf8.decodeReplacing (← IO.FS.readBinFile name).toList)
  catch _ => return none

/-- The variable of a line with a name, an equals sign and a value. -/
def variableOf? (line : Bytes) : Option (String × String) := do
  let name ← Utf8.decode? (line.takeWhile (· ≠ 0x3D))
  let value ← Utf8.decode? ((line.dropWhile (· ≠ 0x3D)).drop 1)
  if name.isEmpty then none else some (name, value)

/-- The variables of this process. -/
def readVariables : IO Variables := do
  try
    let bytes ← IO.FS.readBinFile "/proc/self/environ"
    return (FormUrlencoded.pieces 0 bytes.toList).filterMap variableOf?
  catch _ => return []

/-- The files that a start may look for. -/
def fileNames : List String :=
  ".env" :: [Deployment.development, .testing, .production].flatMap fun d =>
    [d.settingsFile, d.settingsFile ++ ".toml"]

def readSurroundings : IO Surroundings := do
  let texts ← fileNames.mapM fun name => do return (name, ← readFile? name)
  return { vars := ← readVariables, file := fun name => (texts.lookup name).join }

end JobDashboard

open JobDashboard in
def main : IO UInt32 := do
  let start := (← readSurroundings).start
  for e in start.events do
    IO.println (if start.json then e.write.render else e.line)
  let error := match start.outcome with
    | .error e => e
    | .ok _ => .system
  IO.eprintln error.report
  return error.exitCode.toUInt32
