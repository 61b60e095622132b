import RegexSubst.Text.Newline
import RegexSubst.Text.Utf8

/-!
# `RegexSubst.CommandLine.Files`: reading inputs

The name of a file is a sequence of bytes. A name that is given as a text is encoded as UTF-8, and
the surrogates U+DC80 to U+DCFF stand for the bytes that are no UTF-8.

* `encodeName` gives the bytes of a name.
* `readFile` reads the file with a name, `readText` the bytes of any input.
* `Tree` is a directory with all that is in it, and `Tree.find` follows a path in it step by step.
-/

set_option autoImplicit false

namespace RegexSubst.CommandLine

/-- What is found under a name. -/
inductive FileState
  | missing
  | directory
  /-- The name goes through a file as if it were a directory. -/
  | notDirectory
  /-- The name, or a step of it, has more bytes than a name can have. -/
  | tooLong
  | file (content : List UInt8)
deriving DecidableEq

/-- Why an input could not be read. -/
inductive ReadFailure
  | nameEncoding (e : Utf8.EncodeError)
  | nullByte
  | missing
  | isDirectory (name : Text)
  | notDirectory (name : Text)
  | tooLong (name : Text)
  | decoding (e : Utf8.DecodeError)
deriving DecidableEq

/-- Whether a surrogate stands for a byte in the name of a file. -/
def isByteSurrogate (c : CodePoint) : Bool :=
  0xDC80 ≤ c.val && c.val ≤ 0xDCFF

/-- The bytes of the name `t`, whose first code point is at `position`. A surrogate that stands for
no byte is an error, together with the surrogates after it. -/
def encodeNameFrom (position : Nat) : Text → Except Utf8.EncodeError (List UInt8)
  | [] => .ok []
  | c :: rest =>
    if c.isSurrogate && !isByteSurrogate c then
      .error ⟨position, position + 1 + (rest.takeWhile CodePoint.isSurrogate).length, c⟩
    else do
      let bytes :=
        if isByteSurrogate c then [(c.val - 0xDC00).toUInt8] else Utf8.encodeValue c.val
      return bytes ++ (← encodeNameFrom (position + 1) rest)

/-- The bytes of the name of a file; none of them may be zero. -/
def encodeName (name : Text) : Except ReadFailure (List UInt8) :=
  match encodeNameFrom 0 name with
  | .error e => .error (.nameEncoding e)
  | .ok bytes => if bytes.contains 0 then .error .nullByte else .ok bytes

/-- The text of an input, with line feeds for all line ends. -/
def readText (bytes : List UInt8) : Except ReadFailure Text :=
  match Utf8.decode bytes with
  | .ok text => .ok text.withLineFeeds
  | .error e => .error (.decoding e)

/-- The text of the file with a name, where `files` says what is found under a name. -/
def readFile (files : List UInt8 → FileState) (name : Text) : Except ReadFailure Text := do
  let bytes ← encodeName name
  match files bytes with
  | .missing => throw .missing
  | .directory => throw (.isDirectory name)
  | .notDirectory => throw (.notDirectory name)
  | .tooLong => throw (.tooLong name)
  | .file content => readText content

/-- The byte that stands between the steps of a path. -/
def slash : UInt8 := 0x2F

/-- The byte of which the steps to the same directory and to the one above it are made. -/
def dot : UInt8 := 0x2E

/-- The greatest number of bytes in a step of a path. -/
def stepLimit : Nat := 255

/-- The greatest number of bytes in a path. -/
def pathLimit : Nat := 4095

/-- A step of a path: the name of an entry, or a way to stay put or to go up. -/
abbrev Step := List UInt8

/-- Whether a step stays where it is. -/
def Step.staysPut (step : Step) : Bool :=
  step.isEmpty || step = [dot]

/-- Whether a step leads to the directory above. -/
def Step.goesUp (step : Step) : Bool :=
  step = [dot, dot]

/-- The steps of a path. -/
def pathSteps (path : List UInt8) : List Step :=
  path.foldr
    (fun b steps =>
      match steps with
      | step :: rest => if b = slash then [] :: step :: rest else (b :: step) :: rest
      | [] => [[b]])
    [[]]

/-- An entry of a directory. -/
inductive Entry
  | directory
  | file (content : List UInt8)
deriving DecidableEq

/-- A directory with all that is in it: the entries with the steps that lead to them. If there are
several entries for the same steps, the first one counts. -/
structure Tree where
  entries : List (List Step × Entry)

namespace Tree

/-- The tree with the given entries, by their paths. -/
def ofPaths (entries : List (List UInt8 × Entry)) : Tree :=
  ⟨entries.map fun (path, entry) => ((pathSteps path).filter fun step => !step.staysPut, entry)⟩

/-- The entry that the steps lead to. A directory is there also if only something inside it is
listed. -/
def entry? (t : Tree) (steps : List Step) : Option Entry :=
  (t.entries.lookup steps).or
    (if t.entries.any fun e => steps.isPrefixOf e.1 then some .directory else none)

end Tree

/-- A directory that a path can lead through. -/
inductive Place
  /-- The directory of a tree, or one in it, by the steps that lead there. -/
  | inside (steps : List Step)
  /-- A directory above that of the tree, in which nothing can be found. -/
  | above
deriving DecidableEq

namespace Place

/-- The directory that holds another one. No way leads back from above. -/
def parent : Place → Place
  | .inside (step :: rest) => .inside (step :: rest).dropLast
  | .inside [] | .above => .above

/-- The place that a name leads to, with the entry that is there. -/
def enter? (tree : Tree) (name : Step) : Place → Option (Place × Entry)
  | .inside steps => (tree.entry? (steps ++ [name])).map (.inside (steps ++ [name]), ·)
  | .above => none

end Place

namespace Tree

/-- What steps lead to from a directory. A file has nothing after it, not even a step that stays
put. -/
def follow (t : Tree) (place : Place) : List Step → FileState
  | [] => .directory
  | step :: rest =>
    if step.staysPut then t.follow place rest
    else if step.goesUp then t.follow place.parent rest
    else if stepLimit < step.length then .tooLong
    else
      match place.enter? t step with
      | none => .missing
      | some (inner, .directory) => t.follow inner rest
      | some (_, .file content) => if rest.isEmpty then .file content else .notDirectory

/-- What is found under a path that begins in the directory of the tree. A path that begins with a
slash begins above. -/
def find (t : Tree) (path : List UInt8) : FileState :=
  if path.isEmpty then .missing
  else if pathLimit < path.length then .tooLong
  else t.follow (if path.head? = some slash then .above else .inside []) (pathSteps path)

end Tree

end RegexSubst.CommandLine
