import TestbedWatchdog.Program

namespace TestbedWatchdog.Main

def fault : IO.Error → SystemFault
  | .noFileOrDirectory .. => .notFound
  | .permissionDenied .. => .permissionDenied
  | .inappropriateType .. => .isADirectory
  | error => .other (toString error)

def readFile (path : String) : IO (Except SystemFault (List UInt8)) := do
  try
    let bytes ← IO.FS.readBinFile path
    pure (.ok bytes.toList)
  catch error => pure (.error (fault error))

-- Only one file can ever be asked for.
def filesAt (path : String) (found : Except SystemFault (List UInt8)) : Files :=
  { present := fun asked => asked == path && !(found matches .error .notFound)
    read := fun asked => if asked = path then found else .error .notFound
    wording := fun _ mismatch? => mismatch?.elim "not a TOML document" Toml.Mismatch.message }

def pathOf (args : List String) : String :=
  match CommandLine.ofArgs args with
  | .ok line => line.config.getD Config.defaultPath
  | .error _ => Config.defaultPath

-- No process can be started here, which the program reports like any other failure.
def refusingTools : Tools Unit := fun _ world =>
  (.refused (.other "Operation not supported (os error 95)"), world)

def levelName : Level → String
  | .info => " INFO"
  | .warn => " WARN"
  | .error => "ERROR"

def fieldText : FieldValue → String
  | .number n => toString n
  | .flag value => toString value
  | .text content => content

def logLine (event : LogEvent) : String :=
  levelName event.level ++ " " ++ event.message ++
    String.join (event.fields.map fun field => " " ++ field.1 ++ "=" ++ fieldText field.2)

def emit : Effect → IO Unit
  | .attempt .. => pure ()
  | .log event => IO.eprintln (logLine event)
  | .wait seconds => IO.sleep (seconds.toNat.toUInt32 * 1000)
  | .stdout text => IO.print text
  | .stderr text => IO.eprint text

end TestbedWatchdog.Main

open TestbedWatchdog in
def main (args : List String) : IO UInt32 := do
  let path := Main.pathOf args
  let files := Main.filesAt path (← Main.readFile path)
  let done := Program.run { files := files, tools := Main.refusingTools } args ()
  done.trace.forM Main.emit
  match done.value with
  | .code code => pure code.toUInt32
  | .watching => pure 0
