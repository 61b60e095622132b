import RegexSubst.Text.CodePoint

/-!
# `RegexSubst.Regex.Flags`: flags of a regex

A flag has a bit in the number by which flags are handed over, and most flags have a letter by which
a regex sets them itself.

* `Flags` is a set of flags; `Flags.ofInt` reads the bits of a number, and `isMachineInt` tells
  whether the number is small enough for a regex to be made with it.
* `Flag.ofLetter?` is the flag of a letter.
-/

set_option autoImplicit false

namespace RegexSubst.Regex

/-- The least number that is too large for a machine integer. -/
def machineLimit : Nat := 2147483648

/-- Whether a number is a machine integer. -/
def isMachineInt (n : Int) : Bool :=
  -machineLimit ≤ n && n < machineLimit

/-- A flag of a regex. -/
inductive Flag
  | template
  | ignoreCase
  | locale
  | multiline
  | dotAll
  | unicode
  | verbose
  | debug
  | ascii
deriving DecidableEq

namespace Flag

/-- The position of the flag's bit. -/
def bit : Flag → Nat
  | .template => 0
  | .ignoreCase => 1
  | .locale => 2
  | .multiline => 3
  | .dotAll => 4
  | .unicode => 5
  | .verbose => 6
  | .debug => 7
  | .ascii => 8

/-- The letters of the flags that have one. -/
def letters : List (CodePoint × Flag) :=
  [('i', .ignoreCase), ('L', .locale), ('m', .multiline), ('s', .dotAll), ('x', .verbose),
    ('a', .ascii), ('t', .template), ('u', .unicode)]

/-- The flag with a letter. -/
def ofLetter? (c : CodePoint) : Option Flag :=
  letters.lookup c

/-- Flags that choose the character classes; at most one of them is on. -/
def choosesClasses : Flag → Bool
  | .locale | .unicode | .ascii => true
  | _ => false

end Flag

/-- A set of flags, as the number of their bits. -/
structure Flags where
  bits : Nat
deriving DecidableEq

namespace Flags

/-- No flags. -/
def none : Flags := ⟨0⟩

/-- The flags whose bits are set in `n`; a negative number counts in two's complement. -/
def ofInt (n : Int) : Flags :=
  ⟨(n % 512).toNat⟩

/-- Whether a flag is on. -/
def has (f : Flags) (flag : Flag) : Bool :=
  f.bits.testBit flag.bit

/-- The flags of either set. -/
def union (f g : Flags) : Flags :=
  ⟨f.bits ||| g.bits⟩

/-- The flags of the first set that are not in the second. -/
def diff (f g : Flags) : Flags :=
  ⟨f.bits ^^^ (f.bits &&& g.bits)⟩

/-- One flag. -/
def single (flag : Flag) : Flags :=
  ⟨1 <<< flag.bit⟩

/-- The flags with one more. -/
def insert (f : Flags) (flag : Flag) : Flags :=
  f.union (single flag)

/-- The flags without one. -/
def erase (f : Flags) (flag : Flag) : Flags :=
  f.diff (single flag)

/-- Whether the sets have a flag in common. -/
def meets (f g : Flags) : Bool :=
  f.bits &&& g.bits != 0

/-- The flags that choose the character classes. -/
def classFlags : Flags :=
  none.insert .locale |>.insert .unicode |>.insert .ascii

/-- The flags that cannot be set for a part of a regex. -/
def globalFlags : Flags :=
  none.insert .template |>.insert .debug

/-- The flags for matching that the command line options ask for. -/
def ofOptions (ignoreCase multiline dotAll : Bool) : Flags :=
  let on (enabled : Bool) (flag : Flag) (f : Flags) : Flags :=
    if enabled then f.insert flag else f
  none |> on ignoreCase .ignoreCase |> on multiline .multiline |> on dotAll .dotAll

end Flags

/-- Flags that a part of a regex turns on and off. -/
structure FlagChange where
  on : Flags
  off : Flags
deriving DecidableEq

namespace FlagChange

/-- No change. -/
def none : FlagChange := ⟨.none, .none⟩

/-- The flags inside a part with this change. A choice of the character classes replaces the choice
outside. -/
def apply (change : FlagChange) (f : Flags) : Flags :=
  let f := if change.on.meets Flags.classFlags then f.diff Flags.classFlags else f
  (f.union change.on).diff change.off

end FlagChange

end RegexSubst.Regex
