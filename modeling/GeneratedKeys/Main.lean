import GeneratedKeys.Command.Run

/-!
# The program

Changes the statement on its command line or its input so that it returns generated keys. Of
databases this program can reach only the empty one in memory.
-/
namespace GeneratedKeys.Command

def surroundings : Surroundings IO where
  file path := do
    try return some (← IO.FS.readBinFile (String.ofList path))
    catch _ => return none
  database _ := return none
  input := do (← IO.getStdin).readBinToEnd

end GeneratedKeys.Command

open GeneratedKeys Command in
/-- Runs the command line and ends with its status code. -/
def main (args : List String) : IO UInt32 := do
  let env : Environment :=
    ⟨(← IO.getEnv "OXIDE_KEYS_CATALOG").map String.toList,
      (← IO.getEnv "DATABASE_URL").map String.toList⟩
  let exit ← run (args.map String.toList) env surroundings
  match exit with
  | .printed output => IO.print (String.ofList output)
  | .failed t => IO.eprintln t.message
  | .refused => IO.eprintln "error: invalid arguments"
  return exit.code.toUInt32
