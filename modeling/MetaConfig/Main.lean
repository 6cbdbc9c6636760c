import MetaConfig.Command.Run

/-!
The program on a real system.
-/

open MetaConfig Command

def attempted {result : Type} (action : IO result) : IO (Except Text result) := do
  try
    return .ok (← action)
  catch reason =>
    return .error reason.toString.toList

def systemHost : Host IO where
  readInput := attempted (IO.FS.readBinFile "/dev/stdin")
  readFile path := attempted (IO.FS.readBinFile (String.ofList path))
  isDirectory path := do
    let entered ← attempted (IO.FS.Handle.mk (String.ofList path ++ "/.") .read)
    return entered.isOk
  writeFile path content := attempted (IO.FS.writeBinFile (String.ofList path) content)

def main (arguments : List String) : IO UInt32 := do
  let answer ← run systemHost (arguments.map String.toList)
  IO.print (String.ofList answer.output)
  IO.eprint (String.ofList answer.errorOutput)
  return answer.exitCode.toUInt32
