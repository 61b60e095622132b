import RegexSubst.CommandLine.Console
import RegexSubst.CommandLine.Files
import RegexSubst.CommandLine.Help
import RegexSubst.CommandLine.Settings
import RegexSubst.Substitution

/-!
# `RegexSubst.CommandLine.Run`: a run of the program

A run reads its inputs one after another, substitutes in each and writes the result before it goes
on to the next one. It stops at the first failure.

* `run` is the outcome of a command line in a world.
* `handle` deals with one input and `handleAll` with all of them.
-/

set_option autoImplicit false

namespace RegexSubst.CommandLine

/-- What a run finds around it. -/
structure World where
  /-- The bytes of standard input. -/
  stdin : List UInt8
  /-- What is found under the name of a file. -/
  files : List UInt8 → FileState
  /-- Whether nothing can be written to standard output. -/
  isFull : Bool
  /-- What standard error does with surrogates. -/
  policy : SurrogatePolicy

/-- A failure that is not reported in a line on standard error but ends the run as it is. -/
inductive Abort
  | compile (f : Regex.CompileFault)
  | substitution (e : SubstitutionError)
  | read (f : ReadFailure)
  | encode (e : Utf8.EncodeError)
  /-- The count has no value. -/
  | absentCount
  /-- The pattern has no value. -/
  | absentPattern
  /-- The replacement has no value; it would be the piece with this number of the output. -/
  | absentReplacement (piece : Nat)
deriving DecidableEq

/-- Why an input cannot be read, in words. -/
def ReadFailure.message : ReadFailure → Text
  | .nameEncoding e => e.message
  | .nullByte => "embedded null byte"
  | .missing => "No such file or directory"
  | .isDirectory name => "[Errno 21] Is a directory: " ++ name.quoted
  | .notDirectory name => "[Errno 20] Not a directory: " ++ name.quoted
  | .tooLong name => "[Errno 36] File name too long: " ++ name.quoted
  | .decoding e => e.message

/-- What an aborted run ends with, in words. -/
def Abort.message : Abort → Text
  | .compile f => f.message
  | .substitution e => e.message
  | .read f => f.message
  | .encode e => e.message
  | .absentCount => "'<' not supported between instances of 'list' and 'int'"
  | .absentPattern => "unhashable type: 'list'"
  | .absentReplacement piece =>
    "sequence item " ++ Text.ofNat piece ++ ": expected str instance, list found"

/-- How a run ends. -/
inductive Ending
  | exit (code : Nat)
  | abort (a : Abort)
deriving DecidableEq

/-- The ending of a run and all that it has written. -/
structure Outcome where
  ending : Ending
  streams : Streams
deriving DecidableEq

/-- The exit code for failures of writing. -/
def failureCode : Nat := 1

/-- The exit code for errors in the command line. -/
def commandLineCode : Nat := 2

/-- Ends a run with a line on standard error. -/
def stopWith (policy : SurrogatePolicy) (s : Streams) (line : Text) (code : Nat) : Outcome :=
  match s.printError policy line with
  | .ok s => ⟨.exit code, s⟩
  | .error e => ⟨.abort (.encode e), s⟩

/-- What is to be done with every input. -/
structure Job where
  regex : Regex
  /-- The template, which may be absent. -/
  template : Option Text
  count : Int
  verbose : Bool

/-- Where an input comes from. -/
inductive Source
  | stdin
  | file (name : Text)
deriving DecidableEq

/-- The name of an input in reports. -/
def Source.name : Source → Text
  | .stdin => "<stdin>"
  | .file name => name

/-- The text of an input. -/
def Source.read (w : World) : Source → Except ReadFailure Text
  | .stdin => readText w.stdin
  | .file name => readFile w.files name

/-- Substitutes in one text. An absent template does no harm as long as nothing matches. -/
def Job.substitute (j : Job) (text : Text) : Except Abort (Text × Nat) :=
  match j.template with
  | some template =>
    match j.regex.substitute text template j.count with
    | .ok result => .ok result
    | .error e => .error (.substitution e)
  | none =>
    -- Only the number of matches matters here, and the empty template finds as many as any other.
    match j.regex.substitute text [] j.count with
    | .ok (_, 0) => .ok (text, 0)
    | .ok (_, _ + 1) =>
      .error (.absentReplacement (if j.regex.firstStart? text = some 0 then 0 else 1))
    | .error e => .error (.substitution e)

/-- The number of symbols in a divider of a report. -/
def dividerLength : Nat := 48

/-- The lines of the report on one input. -/
def report (name before after : Text) (replaced : Nat) : List Text :=
  let divider (c : CodePoint) : Text := List.replicate dividerLength c
  let change : Text :=
    if replaced = 0 then " (no change)" else " (" ++ Text.ofNat replaced ++ " replaced)"
  [divider '<' ++ " BEFORE " ++ name, before, divider '=' ++ change, after,
    divider '>' ++ " AFTER " ++ name]

/-- Prints lines to standard error up to the first that cannot be encoded. The second component
tells whether all could be. -/
def printLines (policy : SurrogatePolicy) (s : Streams) : List Text → Streams × Bool
  | [] => (s, true)
  | line :: rest =>
    match s.printError policy line with
    | .ok s => printLines policy s rest
    | .error _ => (s, false)

/-- Reports on an input. -/
def printReport (w : World) (s : Streams) (lines : List Text) : Except Outcome Streams :=
  match printLines w.policy s lines with
  | (s, true) => .ok s
  | (s, false) =>
    .error (stopWith w.policy s "error: cannot encode verbose report for standard error"
      failureCode)

/-- Writes a result to standard output. -/
def writeOutput (w : World) (s : Streams) (text : Text) : Except Outcome Streams :=
  match Utf8.encode text with
  | .error e =>
    .error (stopWith w.policy s
      ("error: cannot encode output for standard output: " ++ e.message) failureCode)
  | .ok bytes =>
    if w.isFull && !bytes.isEmpty then
      .error (stopWith w.policy s "error: cannot write to standard output" failureCode)
    else .ok { s with output := s.output ++ text }

/-- Ends a run because an input cannot be read. Only a missing file is reported in a line. -/
def stopReading (w : World) (s : Streams) (source : Source) : ReadFailure → Outcome
  | .missing =>
    stopWith w.policy s
      ("error: argument \x60" ++ source.name ++ "\x60: file \x60" ++ source.name
        ++ "\x60 not found")
      commandLineCode
  | failure => ⟨.abort (.read failure), s⟩

/-- Deals with one input: what has been written afterwards, or the outcome if the run ends here. -/
def handle (w : World) (j : Job) (s : Streams) (source : Source) : Except Outcome Streams :=
  match source.read w with
  | .error failure => .error (stopReading w s source failure)
  | .ok before =>
    match j.substitute before with
    | .error a => .error ⟨.abort a, s⟩
    | .ok (after, replaced) => do
      let s ←
        if j.verbose then printReport w s (report source.name before after replaced) else .ok s
      writeOutput w s after

/-- Deals with the inputs in order, up to the first failure. -/
def handleAll (w : World) (j : Job) (s : Streams) : List Source → Outcome
  | [] => ⟨.exit 0, s⟩
  | source :: rest =>
    match handle w j s source with
    | .ok s => handleAll w j s rest
    | .error outcome => outcome

/-- The inputs of a run: the files, or standard input if there are none. -/
def sources (files : List Text) : List Source :=
  if files.isEmpty then [.stdin] else files.map .file

/-- The regex that the settings ask for. -/
def Settings.compile (settings : Settings) : Except Abort Regex :=
  match settings.pattern with
  | none => .error .absentPattern
  | some pattern =>
    let flags := Regex.Flags.ofOptions settings.ignoreCase settings.multiline settings.dotAll
    match Regex.compile pattern flags.bits with
    | .ok r => .ok r
    | .error f => .error (.compile f)

/-- A run with settings. -/
def runSettings (w : World) (settings : Settings) : Outcome :=
  match settings.count with
  | none => ⟨.abort .absentCount, .empty⟩
  | some count =>
    -- The count is looked at before the regex is made.
    if count < 0 then
      stopWith w.policy .empty "error: option -n (or --count) cannot be negative" commandLineCode
    else
      match settings.compile with
      | .error a => ⟨.abort a, .empty⟩
      | .ok regex =>
        match regex.errorMessage? with
        | some message => stopWith w.policy .empty ("error: " ++ message) commandLineCode
        | none =>
          let job : Job := ⟨regex, settings.replacement, count, settings.verbose⟩
          handleAll w job .empty (sources settings.files)

/-- The outcome of a text on standard output that is never refused. -/
def showText (w : World) (text : Text) : Outcome :=
  ⟨.exit 0, { Streams.empty with output := if w.isFull then [] else text }⟩

/-- The outcome of an error of usage: the usage, then the error. -/
def stopUsage (policy : SurrogatePolicy) (e : UsageError) : Outcome :=
  let s := { Streams.empty with error := usageText }
  match s.writeError policy (usageErrorLine e) with
  | .ok s => ⟨.exit commandLineCode, s⟩
  | .error e => ⟨.abort (.encode e), s⟩

/-- The outcome of a command line that asks for no run. -/
def Halt.outcome (w : World) : Halt → Outcome
  | .help => showText w helpText
  | .version => showText w versionLine
  | .usage e => stopUsage w.policy e

/-- The outcome of a command line. -/
def run (w : World) (arguments : List Text) : Outcome :=
  match parse arguments with
  | .ok settings => runSettings w settings
  | .error halt => halt.outcome w

end RegexSubst.CommandLine
