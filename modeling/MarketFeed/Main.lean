import MarketFeed.CommandLine.Usage
import MarketFeed.Program
import MarketFeed.Terminal.Colour
import MarketFeed.Terminal.Transcript
import Std.Time.Format

/-!
# The command line

Collects what a run needs from the machine, has the library do the run, and carries out what it
asks for: the changes to files, the texts to print and the exit status.  Of the files, only those
are looked at that a run can look at itself.
-/

namespace MarketFeed.Machine

open Terminal (Display)

/-- The variables that are handed over, one after the other with a zero byte behind each. -/
def variablesOf (bytes : Bytes) : List (Bytes × Bytes) :=
  (bytes.splitOn 0).filterMap fun entry =>
    match entry.span (· != CommandLine.equals) with
    | (name, _ :: value) => some (name, value)
    | _ => none

/-- The content of a file, or nothing. -/
def contentOf (file : String) : IO Bytes := do
  match ← (IO.FS.readBinFile file).toBaseIO with
  | .ok content => return content.toList
  | .error _ => return []

/-- The number of the user whom a run belongs to, from what the system tells of the run. -/
def userOf? (status : Bytes) : Option Bytes :=
  (status.splitOn 10).findSome? fun line =>
    match line.splitOn 9 with
    | key :: user :: _ => if key = Utf8.encode "Uid:" then some user else none
    | _ => none

/-- The home directory of the first account with that number; an empty one is none. -/
def homeOf? (accounts user : Bytes) : Option Path :=
  let home? := (accounts.splitOn 10).findSome? fun line =>
    match line.splitOn 58 with
    | [_, _, number, _, _, home, _] => if number = user then some home else none
    | _ => none
  (home?.filter (· != [])).map Path.mk

/-- The home directory of the account that this run belongs to. -/
def accountHome : IO (Option Path) := do
  let accounts ← contentOf "/etc/passwd"
  return (userOf? (← contentOf "/proc/self/status")).bind (homeOf? accounts)

/-- The environment of this run. -/
def environment : IO Environment := do
  return ⟨variablesOf (← contentOf "/proc/self/environ"), ← accountHome⟩

/-- What markers tell of this run. -/
def stamp : IO Stamp := do
  let now ← Std.Time.PlainDateTime.now
  let host := Utf8.lossy (← contentOf "/proc/sys/kernel/hostname")
  let status := Utf8.lossy (← contentOf "/proc/self/stat")
  return ⟨toString (now.format "uuuu-MM-dd HH:mm:ss.SSS"), host.trimAscii.toString,
    (status.takeWhile Char.isDigit).toString⟩

/-! ## Files -/

/-- The tree with what stands at a path on the machine. -/
def look (files : FileTree) (p : Path) : IO FileTree := do
  match ← (IO.FS.realPath p.text).toBaseIO with
  | .error _ => return files
  | .ok place =>
    if ← place.isDir then
      return (files.createDirectories p).2
    else
      match files.write p (← IO.FS.readBinFile place).toList with
      | .ok files => return files
      | .error _ => return files

/-- The path and those above it, from the outside in. -/
def chain (p : Path) : List Path := (p :: p.ancestors).reverse.filter (·.bytes != [])

/-- Carries out what has become of a path. -/
def carryOut (before after : FileTree) (p : Path) : IO Unit := do
  match before.find? p, after.find? p with
  | .error _, .ok .directory => IO.FS.createDirAll p.text
  | .ok (.file old), .ok (.file new) =>
    if old != new then
      IO.FS.writeBinFile p.text ⟨new.toArray⟩
  | .error _, .ok (.file new) => IO.FS.writeBinFile p.text ⟨new.toArray⟩
  | _, _ => pure ()

/-- The paths on the way to the file of the settings. -/
def settingsPaths (environment : Environment) : List Path :=
  environment.configFile?.toList.flatMap chain

/-- The paths that a run with these settings can look at. -/
def pathsOf (environment : Environment) (settings : Settings) : List Path :=
  let site := Site.ofHome 0 settings.home settings.logLevel
  settingsPaths environment ++ chain site.archiveDir ++
    chain (site.console.layoutFile .log dataGroup)

/-! ## The run -/

/-- How this run shows things. -/
def display (environment : Environment) (stamp : Stamp) : Display where
  colour := Terminal.isColoured environment false
  clock := ⟨stamp.time, "-", "-"⟩
  rejections := CommandLine.Rejection.remark
  completions _ := String.join
    (CommandLine.Command.program.completions.map fun word => word ++ "\n")

/-- Prints the texts of a run. -/
def print (texts : List (Terminal.Stream × String)) : IO Unit :=
  texts.forM fun (stream, text) =>
    match stream with
    | .output => IO.print text
    | .errors => IO.eprint text

/-- The settings that the arguments lead to, or what holds without any. -/
def settingsOf (program : Program) (args : List Bytes) (files : FileTree) : Settings :=
  let standard := Settings.standard program.environment
  match CommandLine.Invocation.parse program.registry args with
  | .error _ => standard
  | .ok invocation =>
    match program.settings invocation files with
    | .ok settings => settings
    | .error _ => standard

end MarketFeed.Machine

open MarketFeed Machine in
/-- Runs the program once. -/
def main (words : List String) : IO UInt32 := do
  let environment ← Machine.environment
  let stamp ← Machine.stamp
  let program := Program.standard stamp environment
  let args := Utf8.encode "kfc" :: words.map Utf8.encode
  let working := Path.ofString (← IO.currentDir).toString
  let address := working.pieces.filter (· != [])
  let empty := (FileTree.empty.createDirectories working).2.enter address
  let first ← (settingsPaths environment).foldlM look empty
  let paths := pathsOf environment (settingsOf program args first)
  let files ← paths.foldlM look first
  let outcome := program.run args files
  print (Terminal.transcript (display environment stamp) none outcome.session.journal)
  paths.forM (carryOut files outcome.session.files)
  return outcome.status.code.toUInt32
