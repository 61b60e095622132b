/-!
# `RegexSubst.Unicode.Name.Run`: runs of names

Characters that follow one another often have names that begin alike, so names are kept in runs. All
name tables of this folder are lists of runs.

* `NameRun.code?` looks a name up in a run.
-/

set_option autoImplicit false

namespace RegexSubst.Unicode

/-- The names of code points at equal distances. They share a beginning, and the endings are given
in order with commas between them. -/
structure NameRun where
  first : Nat
  stride : Nat
  stem : String
  endings : String

/-- The code point that has the name `name` in a run. -/
def NameRun.code? (run : NameRun) (name : List Char) : Option Nat := do
  let ending ← run.stem.toList.isPrefixOf? name
  let index ← (run.endings.splitOn ",").idxOf? (String.ofList ending)
  return run.first + run.stride * index

end RegexSubst.Unicode
