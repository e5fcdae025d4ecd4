import Std.Time
import TenantQuery.CommandLine.Run
/-!
The program: reads the files that a command names, carries it out, and prints the outcome.
-/

namespace TenantQuery.CommandLine

def fileBytes (path : String) : IO (Option ByteArray) := do
  try
    return some (← IO.FS.readBinFile path)
  catch _ =>
    return none

def currentDate : IO (Option Date) := do
  let now ← Std.Time.PlainDate.now
  return Date.of? now.year now.month.toInt.toNat now.day.toInt.toNat

def Command.carryOut (command : Command) : IO Output := do
  let files ← command.paths.mapM fun path => do
    return (path, ← fileBytes path)
  let standardInput ←
    if command.readsInput then (← IO.getStdin).readBinToEnd else pure ByteArray.empty
  match ← currentDate with
  | some today =>
    return command.run { file := fun path => (files.lookup path).join, standardInput, today }
  | none => return failure

/-- Follows the arguments, and gives the status of the program. -/
def runProgram (arguments : List String) : IO UInt32 := do
  match parse? arguments with
  | none =>
    (← IO.getStderr).putStrLn "usage: compile | check-policy [OPTIONS]"
    return 2
  | some command =>
    let output ← command.carryOut
    (← IO.getStdout).putStr output.text
    return output.status.toUInt32

end TenantQuery.CommandLine

def main (arguments : List String) : IO UInt32 :=
  TenantQuery.CommandLine.runProgram arguments
