import RegexSubst.CommandLine.Argument

/-!
# `RegexSubst.CommandLine.Settings`: what a command line asks for

* `Settings` is the meaning of a command line.
* `parse` reads a command line. It either asks for a run, or for the help or the version, or is an
  error of usage.

Options act in the order in which they are met. Positional arguments are handed out in groups: a
pattern and a replacement take one argument each, and what is left of a stretch of positional
arguments after the replacement are the files. A group loses its first `--`, and if that was all it
had, its argument has no value.
-/

set_option autoImplicit false

namespace RegexSubst.CommandLine

/-- What a run does. A pattern, a replacement or a count is absent if its only argument was a
`--`. -/
structure Settings where
  ignoreCase : Bool
  multiline : Bool
  dotAll : Bool
  verbose : Bool
  count : Option Int
  pattern : Option Text
  replacement : Option Text
  files : List Text
deriving DecidableEq

/-- The settings before any argument. -/
def Settings.initial : Settings :=
  { ignoreCase := false
    multiline := false
    dotAll := false
    verbose := false
    count := some 0
    pattern := none
    replacement := none
    files := [] }

/-- Why a command line asks for no run. -/
inductive Halt
  | help
  | version
  | usage (e : UsageError)
deriving DecidableEq

/-- A positional argument. -/
inductive Positional
  | pattern
  | replacement
  | files
deriving DecidableEq

/-- The name by which messages call a positional argument. -/
def Positional.name : Positional → Text
  | .pattern => "pattern"
  | .replacement => "replacement"
  | .files => "file"

/-- The use of an option, with its value if it takes one. -/
structure Use where
  switch : Switch
  value : Option Text
deriving DecidableEq

/-- The uses of the option `switch` with something attached to its name, and whether the argument
after it was needed as a value. Letters without a value may be followed by more letters. -/
def attachedUses (switch : Switch) (isLong : Bool) (next : Option Argument) :
    Text → Except UsageError (List Use × Bool)
  | [] =>
    -- Nothing behind an equals sign is a value too, the empty one.
    if switch.takesValue then .ok ([⟨switch, some []⟩], false)
    else .error (.valueIgnored switch [])
  | c :: rest =>
    if switch.takesValue then .ok ([⟨switch, some (c :: rest)⟩], false)
    else if isLong then .error (.valueIgnored switch (c :: rest))
    else
      -- The letters run together, so the next one is an option of its own.
      match Switch.ofLetter? c with
      | none => .error (.valueIgnored switch (c :: rest))
      | some other => do
        let (uses, needed) ←
          match rest with
          | [] => plainUses other next
          | _ :: _ => attachedUses other false next rest
        return (⟨switch, none⟩ :: uses, needed)
where
  /-- The use of an option with nothing attached. -/
  plainUses (switch : Switch) (next : Option Argument) : Except UsageError (List Use × Bool) :=
    if switch.takesValue then
      match next with
      | some ⟨text, .positional⟩ => .ok ([⟨switch, some text⟩], true)
      | _ => .error (.valueMissing switch)
    else .ok ([⟨switch, none⟩], false)

/-- The uses of options in one argument, and whether the argument after it is a value. -/
def usesOf (switch : Switch) (isLong : Bool) (attached : Option Text) (next : Option Argument) :
    Except UsageError (List Use × Bool) :=
  match attached with
  | none => attachedUses.plainUses switch next
  | some text => attachedUses switch isLong next text

/-- The count that an argument writes. -/
def countOf (value : Text) : Except Halt (Option Int) :=
  if value = separator then .ok none
  else
    match Numeral.readInt 10 value with
    | .ok n => .ok (some n)
    | .error _ => .error (.usage (.invalidInt .count value))

/-- The settings after the use of an option. -/
def Settings.apply (s : Settings) (use : Use) : Except Halt Settings :=
  match use.switch with
  | .help => .error .help
  | .version => .error .version
  | .ignoreCase => .ok { s with ignoreCase := true }
  | .multiline => .ok { s with multiline := true }
  | .dotAll => .ok { s with dotAll := true }
  | .verbose => .ok { s with verbose := true }
  | .count => do
    let count ← countOf (use.value.getD [])
    return { s with count }

/-- The settings after a positional argument has received its group. -/
def Settings.fill (s : Settings) (p : Positional) (group : List Text) : Settings :=
  let values := group.erase separator
  match p with
  | .pattern => { s with pattern := values.head? }
  | .replacement => { s with replacement := values.head? }
  | .files => { s with files := values }

/-- Whether an argument is the separator. -/
def Argument.isSeparator (a : Argument) : Bool :=
  a.kind = .separator

/-- Whether an argument is positional or the separator. -/
def Argument.isOrdinary (a : Argument) : Bool :=
  a.kind = .positional || a.kind = .separator

/-- The group of a positional argument that takes one argument: that one and a separator before and
after it. The second component is what follows. -/
def singleGroup? (arguments : List Argument) : Option (List Argument × List Argument) :=
  let before := arguments.takeWhile Argument.isSeparator
  match arguments.dropWhile Argument.isSeparator with
  | [] => none
  | a :: rest =>
    if a.kind = .positional then
      some (before ++ a :: rest.takeWhile Argument.isSeparator,
        rest.dropWhile Argument.isSeparator)
    else none

/-- Where the reading of a command line has come to. -/
structure Progress where
  settings : Settings
  /-- The positional arguments that have received nothing yet. -/
  awaiting : List Positional
  /-- Arguments without a use. -/
  extras : List Text

/-- Hands out the ordinary arguments at the front to the positional arguments that wait for them.
The second component is what is left. -/
def handOut (settings : Settings) (arguments : List Argument) :
    List Positional → (Settings × List Positional) × List Argument
  | [] => ((settings, []), arguments)
  | .files :: awaiting =>
    let group := arguments.takeWhile Argument.isOrdinary
    ((settings.fill .files (group.map (·.text)), awaiting),
      arguments.dropWhile Argument.isOrdinary)
  | p :: awaiting =>
    match singleGroup? arguments with
    | none => ((settings, p :: awaiting), arguments)
    | some (group, rest) => handOut (settings.fill p (group.map (·.text))) rest awaiting

/-- Applies the uses of options in order. -/
def applyAll (s : Settings) : List Use → Except Halt Settings
  | [] => .ok s
  | use :: uses => do applyAll (← s.apply use) uses

/-- Reads arguments until the end. Ordinary arguments that nothing waits for have no use. Every
round reads an argument, or hands out some. -/
def readArguments : (rounds : Nat) → Progress → List Argument → Except Halt Progress
  | 0, progress, _ => .ok progress
  | _ + 1, progress, [] => .ok progress
  | rounds + 1, progress, a :: rest =>
    match a.kind with
    | .switch switch isLong attached =>
      match usesOf switch isLong attached rest.head? with
      | .error e => .error (.usage e)
      | .ok (uses, needsNext) => do
        let settings ← applyAll progress.settings uses
        readArguments rounds { progress with settings } (if needsNext then rest.drop 1 else rest)
    | .unknown =>
      readArguments rounds { progress with extras := progress.extras ++ [a.text] } rest
    | .positional | .separator =>
      let ((settings, awaiting), left) := handOut progress.settings (a :: rest) progress.awaiting
      -- What nothing waits for is left over whole, up to the next option.
      if left.length < (a :: rest).length then
        readArguments rounds { progress with settings, awaiting } left
      else
        let unused := (a :: rest).takeWhile Argument.isOrdinary
        readArguments rounds { progress with extras := progress.extras ++ unused.map (·.text) }
          ((a :: rest).dropWhile Argument.isOrdinary)

/-- What a command line asks for. -/
def parse (arguments : List Text) : Except Halt Settings :=
  match classify arguments with
  | .error e => .error (.usage e)
  | .ok classified => do
    let start : Progress := ⟨.initial, [.pattern, .replacement, .files], []⟩
    let progress ← readArguments (classified.length + 1) start classified
    -- There may be no files, but a pattern and a replacement are required.
    let missing := progress.awaiting.filter (· ≠ .files)
    if missing ≠ [] then throw (.usage (.required (missing.map Positional.name)))
    if progress.extras ≠ [] then throw (.usage (.unrecognized progress.extras))
    return progress.settings

end RegexSubst.CommandLine
