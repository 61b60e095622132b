import RegexSubst.Regex.Program
import RegexSubst.Template.Capture

/-!
# `RegexSubst.Regex.Basic`: compiled regexes

A regex with an error of syntax is a regex too: it is known to be invalid and remembers why. Only
the other refusals leave no regex.

* `Regex.compile` makes a regex from its text and flags.
* `Regex.view` is what the expansion of templates sees of a regex.
-/

set_option autoImplicit false

namespace RegexSubst

open RegexSubst.Regex (Program SyntaxError CompileFault Flags Refusal)

/-- A regex: its text, its flags as they were given, and the program if the syntax is right. -/
structure Regex where
  pattern : Text
  flags : Int
  program : Except SyntaxError Program

namespace Regex

/-- The regex with a text and flags. -/
def compile (pattern : Text) (flags : Int) : Except CompileFault Regex :=
  match Program.compile pattern flags with
  | .ok program => .ok ⟨pattern, flags, .ok program⟩
  | .error (.syntaxError e) => .ok ⟨pattern, flags, .error e⟩
  | .error (.fault f) => .error f

/-- Whether the syntax is right. -/
def isValid (r : Regex) : Bool :=
  match r.program with
  | .ok _ => true
  | .error _ => false

/-- The wording of an error in the regex `pattern`. -/
def invalidMessage (pattern : Text) (e : SyntaxError) : Text :=
  "invalid regex \x60" ++ pattern ++ "\x60: " ++ e.message pattern

/-- What is wrong with an invalid regex. -/
def errorMessage? (r : Regex) : Option Text :=
  match r.program with
  | .ok _ => none
  | .error e => some (invalidMessage r.pattern e)

/-- The number of a named group, or -1 if there is none. -/
def groupNumber (r : Regex) (name : Text) : Int :=
  match r.program with
  | .ok program => ((program.groups.number? name).map Int.ofNat).getD (-1)
  | .error _ => -1

/-- The regex as the expansion of a template sees it. -/
def view (r : Regex) : Template.RegexView :=
  ⟨r.isValid, r.groupNumber⟩

end Regex

end RegexSubst
