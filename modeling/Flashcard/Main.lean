import Flashcard.CommandLine.Script

/-!
# The program

Reads the command line and the sources that it names, runs the command, and
writes what it leaves behind.
-/

namespace Flashcard.CommandLine

/-- All bytes that a stream still holds. -/
partial def readAll (stream : IO.FS.Stream) (bytes : ByteArray) : IO ByteArray := do
  let more ← stream.read 65536
  if more.isEmpty then return bytes else readAll stream (bytes ++ more)

/-- Bytes of a source. -/
def readBytes : Source → IO ByteArray
  | .standardInput => do readAll (← IO.getStdin) .empty
  | .file path => IO.FS.readBinFile (String.ofList path)

/-- Text of a source. -/
def readText (source : Source) : IO (Except ReadFault Text) := do
  try
    return decode (← readBytes source)
  catch fault =>
    match fault with
    | .noFileOrDirectory .. => return .error .missing
    | .inappropriateType .. => return .error .directory
    | fault => return .error (.other fault.toString.toList)

/-- Contents of some sources. -/
def readSources (wanted : List Source) : IO Sources := do
  let contents ← wanted.mapM fun source => return (source, ← readText source)
  return fun source => (contents.lookup source).getD (.error .missing)

/-- Runs an invocation and returns the exit code. -/
def perform (invocation : Invocation) : IO UInt32 := do
  let sources ← readSources invocation.request.sources
  let terminal ← (← IO.getStderr).isTty
  let (result, console) := invocation.script terminal sources .empty
  for notice in console.errors invocation.level do IO.eprint (String.ofList notice.text)
  IO.print (String.ofList console.output)
  match result with
  | .ok code => return code.toUInt32
  | .error failure =>
    IO.eprintln ("error: " ++ String.ofList failure.message)
    return 1

end Flashcard.CommandLine

open Flashcard.CommandLine in
/-- Runs the command line. -/
def main (args : List String) : IO UInt32 := do
  match parse (args.map String.toList) with
  | .ok invocation => perform invocation
  | .error fault =>
    let message := String.ofList fault.message
    if fault.exitCode = 0 then IO.println message else IO.eprintln ("error: " ++ message)
    return fault.exitCode.toUInt32
