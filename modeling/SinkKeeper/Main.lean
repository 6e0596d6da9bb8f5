import SinkKeeper.CommandLine.Ensure

/-!
# The command

The command line around `CommandLine.run`: it reads the variables and files that the words ask for, and
prints the lines that come out. No driver is part of the program, so every connection is refused as it is
where drivers are missing.
-/

namespace SinkKeeper

/-- A server that no driver reaches. -/
structure Unreachable where

/-- Every call ends before it reaches anything. -/
def Unreachable.respond (s : Unreachable) (_ : Call) : Answer × Unreachable :=
  (.broken (.plain .driverMissing "no driver is installed"), s)

instance : Server Unreachable := ⟨Unreachable.respond, fun _ => .absent⟩

namespace CommandLine

def usage : String :=
  "usage: --engine ENGINE --url URL --user USER [--password-env NAME] [--database NAME] SCHEMA"

def variablesOf (words : List String) : List String :=
  let password := match read words with
    | .ok r => [r.passwordVariable]
    | .error _ => []
  knownVariables ++ [vaultVariable, userVariable] ++ password

def filesOf (words : List String) : List String :=
  match read words with
  | .ok r => [".env", r.schema]
  | .error _ => []

def readVariables (names : List String) : IO Environment := do
  let found ← names.filterMapM fun name => do
    return (← IO.getEnv name).map fun value => (name, value)
  return .ofList found

def readFiles (paths : List String) : IO Folder := do
  let found ← paths.filterMapM fun (path : String) => do
    try
      let bytes ← IO.FS.readBinFile path
      return some (path, bytes.toList)
    catch _ => return none
  return ⟨found⟩

def printLines (lines : List Line) : IO Unit := do
  for line in lines do
    match line.stream with
    | .output => IO.println line.text
    | .error => IO.eprintln line.text

end CommandLine

end SinkKeeper

open SinkKeeper in
def main (words : List String) : IO UInt32 := do
  let environment ← CommandLine.readVariables (CommandLine.variablesOf words)
  let folder ← CommandLine.readFiles (CommandLine.filesOf words)
  let surroundings : Surroundings := ⟨folder, ⟨[]⟩, environment, .ofList []⟩
  match (CommandLine.run surroundings words).run (Link.fresh (Unreachable.mk)) with
  | .ok (.refused refusal) _ =>
    if refusal = .help then IO.println CommandLine.usage else IO.eprintln CommandLine.usage
    return refusal.exit.toUInt32
  | .ok (.ended exit lines) _ =>
    CommandLine.printLines lines
    return exit.toUInt32
  | .error e _ =>
    IO.eprintln e.message
    return 1
