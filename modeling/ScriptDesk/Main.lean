import ScriptDesk.Host.Directory
import ScriptDesk.Shell

namespace ScriptDesk

def IoError.ofCode (code : UInt32) (details : String) : IoError :=
  match (min code (-code)).toNat with
  | 2 => .notFound
  | 17 => .alreadyExists
  | 20 => .notADirectory
  | 21 => .isADirectory
  | n => .other (details.toList ++ " (os error ".toList ++ Text.ofNat n ++ ")".toList)

def IoError.ofRefusal : IO.Error → IoError
  | .noFileOrDirectory _ code details => .ofCode code details
  | .alreadyExists _ code details => .ofCode code details
  | .inappropriateType _ code details => .ofCode code details
  | .permissionDenied _ code details => .ofCode code details
  | .invalidArgument _ code details => .ofCode code details
  | .resourceExhausted _ code details => .ofCode code details
  | .unsatisfiedConstraints code details => .ofCode code details
  | .otherError code details => .ofCode code details
  | e => .other e.toString.toList

def attempt (act : IO α) : IO (Except IoError α) := do
  try return .ok (← act) catch e => return .error (.ofRefusal e)

/-- No program is started from here. -/
instance : Host IO where
  read path := do return (← attempt (IO.FS.readBinFile (String.ofList path))).bind Text.decode
  write path text := attempt (IO.FS.writeFile (String.ofList path) (String.ofList text))
  makeDir path := attempt (IO.FS.createDir (String.ofList path))
  isDirectory path := do
    try (← IO.FS.realPath (String.ofList path)).isDir catch _ => return false
  starts _ _ := return false

/-- The account's own home directory is not looked up. -/
def Environment.current : IO Environment := do
  let text? (name : String) : IO (Option Text) := return (← IO.getEnv name).map (·.toList)
  return ⟨← text? "HOME", ← text? "XDG_CONFIG_HOME", none, ← text? "TERMINAL"⟩

def Printed.emit (p : Printed) : IO Unit := do
  let out ← IO.getStdout
  out.putStr (String.ofList p.out)
  out.flush
  let err ← IO.getStderr
  err.putStr (String.ofList p.err)
  err.flush

def nextLine : IO (Task (Except IO.Error String)) := do
  IO.asTask (← IO.getStdin).getLine .dedicated

partial def serve (s : Shell) (line : Task (Except IO.Error String)) (due : Nat) : IO Unit := do
  let now ← IO.monoMsNow
  if ← IO.hasFinished line then
    match line.get with
    | .error e => throw e
    | .ok "" => (← s.close).emit
    | .ok typed =>
      match ← s.feed typed.toList with
      | (p, none) => p.emit
      | (p, some s) =>
        p.emit
        serve s (← nextLine) due
  else if due ≤ now then
    let (p, s) ← s.tick
    p.emit
    let period := s.desk.workspace.settings.interval * 1000
    serve s line (due + ((now - due) / period + 1) * period)
  else
    IO.sleep 10
    serve s line due

end ScriptDesk

open ScriptDesk in
def main (args : List String) : IO UInt32 := do
  match ← Program.run (← Environment.current) (CommandLine.read (args.map (·.toList))) with
  | (p, .finished exit) =>
    p.emit
    return exit.toUInt32
  | (p, .running s) =>
    p.emit
    let due := (← IO.monoMsNow) + s.desk.workspace.settings.interval * 1000
    try
      serve s (← nextLine) due
      return 0
    catch e =>
      (Program.fail (.ofRefusal e)).1.emit
      return 1
