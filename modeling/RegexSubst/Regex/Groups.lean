import RegexSubst.Regex.Syntax
import RegexSubst.Unicode.Identifier

/-!
# `RegexSubst.Regex.Groups`: the groups of a regex

Groups are numbered from one in the order in which they are opened, and some of them have a name.

* `GroupTable` holds the number of groups and the names; that every named group is one of them, and
  that every name is an identifier, is part of the type.
* `GroupTable.addUnnamed` and `GroupTable.addNamed` add a group.
-/

set_option autoImplicit false

namespace RegexSubst.Regex

/-- Whether a text is an identifier, as the names of groups are. -/
def isIdentifier : Text → Bool
  | [] => false
  | c :: rest =>
    Unicode.identifierStart.contains c.val
      && rest.all fun d => Unicode.identifierContinue.contains d.val

/-- The name of a group and its number. -/
structure GroupName where
  name : Text
  number : Nat
  isIdentifier : isIdentifier name = true

/-- The groups of a regex. -/
structure GroupTable where
  /-- How many groups there are. -/
  count : Nat
  /-- The groups that have a name. -/
  names : List GroupName
  inRange : ∀ entry ∈ names, 1 ≤ entry.number ∧ entry.number ≤ count

namespace GroupTable

/-- No groups. -/
def empty : GroupTable :=
  ⟨0, [], by intro entry h; cases h⟩

/-- The number of a named group. -/
def number? (t : GroupTable) (name : Text) : Option Nat :=
  (t.names.find? fun entry => entry.name = name).map (·.number)

/-- Adds a group without a name. -/
def addUnnamed (t : GroupTable) : GroupTable :=
  ⟨t.count + 1, t.names, fun entry h => by
    have := t.inRange entry h
    omega⟩

/-- Adds a group with a name. -/
def addNamed (t : GroupTable) (name : Text) (h : RegexSubst.Regex.isIdentifier name = true) :
    GroupTable :=
  ⟨t.count + 1, ⟨name, t.count + 1, h⟩ :: t.names, by
    intro entry hentry
    cases hentry with
    | head => exact ⟨Nat.succ_le_succ (Nat.zero_le _), Nat.le_refl _⟩
    | tail _ hmem =>
      have := t.inRange entry hmem
      omega⟩

end GroupTable

end RegexSubst.Regex
