import RegexSubst.CommandLine.Run

/-!
# `RegexSubst.Main`: the program

Collects what the run of a command line needs, lets `CommandLine.run` decide what happens, and
writes what it says.
-/

set_option autoImplicit false

namespace RegexSubst.CommandLine

/-- Reads all bytes of a stream. -/
partial def readAll (stream : IO.FS.Stream) (read : ByteArray) : IO ByteArray := do
  let chunk ← stream.read 65536
  if chunk.isEmpty then return read else readAll stream (read ++ chunk)

/-- The system's number for a path that goes through a file. -/
def notDirectoryCode : UInt32 := 20

/-- The system's number for a name that is too long. -/
def tooLongCode : UInt32 := 36

/-- Whether an error has a number of the system, which may be reported with its sign changed. -/
def hasCode (number code : UInt32) : Bool :=
  code = number || code = 0 - number

/-- What is found under the name of a file. -/
def lookUp (name : String) : IO FileState := do
  try
    let content ← IO.FS.readBinFile name
    return .file content.toList
  catch
    | .noFileOrDirectory .. => return .missing
    | .inappropriateType _ code _ =>
      return if hasCode notDirectoryCode code then .notDirectory else .directory
    | .illegalOperation .. => return .directory
    | e@(.invalidArgument _ code _) => if hasCode tooLongCode code then return .tooLong else throw e
    | e => throw e

/-- The files among the inputs of a run, by the bytes of their names. -/
def lookUpAll : List Source → IO (List (List UInt8 × FileState))
  | [] => return []
  | .stdin :: rest => lookUpAll rest
  | .file name :: rest => do
    let entries ← lookUpAll rest
    match encodeName name, name.toString? with
    | .ok bytes, some string => return (bytes, ← lookUp string) :: entries
    | _, _ => return entries

/-- The world in which a command line runs. -/
def observe (arguments : List Text) : IO World := do
  let inputs :=
    match parse arguments with
    | .ok settings => sources settings.files
    | .error _ => []
  let input ← if inputs.contains .stdin then readAll (← IO.getStdin) .empty else pure .empty
  let entries ← lookUpAll inputs
  return {
    stdin := input.toList
    files := fun name => (entries.lookup name).getD .missing
    isFull := false
    policy := .escape }

/-- The string of a text; a code point without a character becomes the replacement character. -/
def display (t : Text) : String :=
  String.ofList (t.map fun c => c.toChar?.getD '\ufffd')

/-- Writes the outcome of a run and returns the exit code. -/
def present (outcome : Outcome) : IO UInt32 := do
  IO.eprint (display outcome.streams.error)
  try
    let output ← IO.getStdout
    output.putStr (display outcome.streams.output)
    output.flush
  catch _ =>
    IO.eprintln "error: cannot write to standard output"
    return failureCode.toUInt32
  match outcome.ending with
  | .exit code => return code.toUInt32
  | .abort a =>
    IO.eprintln (display a.message)
    return failureCode.toUInt32

end RegexSubst.CommandLine

/-- Runs the command line. -/
def main (arguments : List String) : IO UInt32 := do
  let arguments := arguments.map RegexSubst.Text.ofString
  let world ← RegexSubst.CommandLine.observe arguments
  RegexSubst.CommandLine.present (RegexSubst.CommandLine.run world arguments)
