import HouseStyle.Command

/-! The command line. Files are read before the run begins. -/
namespace HouseStyle

def stylesOutput : IO Bool := do
  let forced := (← IO.getEnv "CLICOLOR_FORCE").any (· != "0")
  let wanted := (← IO.getEnv "CLICOLOR").all (· != "0")
  let colorful := (← IO.getEnv "NO_COLOR").isNone && (← IO.getEnv "TERM").any (· != "dumb")
  return forced || (wanted && colorful && (← (← IO.getStdout).isTty))

def readFailure (path : String) : IO.Error → ReadFailure
  | .noFileOrDirectory .. => .notFound path
  | .inappropriateType _ code _ =>
    if code = 21 then .notAFile path else .notFound path
  | .invalidArgument .. => .notFound path
  | error => .unreadable path (toString error)

def readDisk (path : String) : IO (Except ReadFailure Content) := do
  try
    return .ok (Content.ofBytes (← IO.FS.readBinFile path).toList)
  catch error =>
    return .error (readFailure path error)

def readAll : Request → IO Shelf
  | .check files => files.foldlM (fun shelf path => return shelf.put path (← readDisk path)) {}
  | _ => return {}

end HouseStyle

open HouseStyle in
def main (arguments : List String) : IO UInt32 := do
  let outcome ← match Request.parse arguments with
    | .error refusal => pure (Command.refused refusal)
    | .ok request => do
      let shelf ← readAll request
      pure (Command.perform shelf.source (← stylesOutput) request)
  IO.eprint outcome.stderr
  IO.print outcome.stdout
  return outcome.status
