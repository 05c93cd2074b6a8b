import DocStore.CommandLine

/-!
The program: reads the standard input and the files that the arguments name, and writes
what the run leaves behind.
-/

open DocStore

/-- Everything on a stream. -/
partial def readAll (stream : IO.FS.Stream) (sofar : ByteArray) : IO ByteArray := do
  let chunk ← stream.read 65536
  if chunk.isEmpty then return sofar else readAll stream (sofar ++ chunk)

/-- The content of a file, or why there is none. -/
def readFile (path : String) : IO (Except FileFault ByteArray) := do
  try
    return .ok (← IO.FS.readBinFile path)
  catch
    | .noFileOrDirectory .. => return .error .missing
    | .inappropriateType .. => return .error .directory
    | e => return .error (.other e.toString)

def main (args : List String) : IO UInt32 := do
  let (input, files) ← match CommandLine.readArguments args with
    | .run (.checkConfig path) => do pure (ByteArray.empty, [(path, ← readFile path)])
    | .run _ => do pure (← readAll (← IO.getStdin) ByteArray.empty, [])
    | _ => pure (ByteArray.empty, [])
  let file (path : String) : Except FileFault ByteArray :=
    (files.lookup path).getD (.error .missing)
  let outcome := CommandLine.outcomeOf ⟨input, file⟩ args
  (← IO.getStdout).putStr outcome.out
  (← IO.getStderr).putStr outcome.err
  return outcome.exit.toUInt32
