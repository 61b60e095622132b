import RegexSubst.Regex.Syntax

/-!
# `RegexSubst.Regex.Alternation`: from lists of items to a part

An alternative is a list of items. Groups that capture nothing and change no flags only hold items
together, so their items take their place in the list. Several alternatives are brought into one of
three forms: the items with which all of them begin come first, and what is left of them is one set
if it is single characters and sets, else a choice.

* `Node.items` and `Node.ofList` pass between a part and its items.
* `spliceGroups` takes plain groups out of a list of items.
* `Node.ofAlternatives` is the part for several alternatives.
-/

set_option autoImplicit false

namespace RegexSubst.Regex

/-- The items that a part consists of, one after another. -/
def Node.items : Node → List Node
  | .empty => []
  | .seq first second => first :: second.items
  | node => [node]

/-- The items of a list, with the items of plain groups in the place of the groups. -/
def spliceGroups (items : List Node) : List Node :=
  items.flatMap fun
    | .scoped change body => if change = .none then body.items else [.scoped change body]
    | item => [item]

/-- Whether an item has no part inside it. Such items can be told to be equal. -/
def Node.isPlain : Node → Bool
  | .literal _ | .any | .set _ | .anchor _ | .backref _ => true
  | _ => false

/-- The plain items with which an alternative and all others begin, then what is left of the one and
of the others. -/
def splitCommon : List Node → List (List Node) → List Node × List Node × List (List Node)
  | [], others => ([], [], others)
  | item :: rest, others =>
    if item.isPlain && others.all fun other => other.head? = some item then
      let (common, left, lefts) := splitCommon rest (others.map List.tail)
      (item :: common, left, lefts)
    else ([], item :: rest, others)

/-- The members of the set that an alternative amounts to, if it is one character or one set that is
not negated. -/
def members? : List Node → Option (List SetItem)
  | [.literal c] => some [.single c]
  | [.set ⟨false, items⟩] => some items
  | _ => none

/-- A choice between an alternative and others, in order. -/
def Node.choice (first : List Node) : List (List Node) → Node
  | [] => .ofList first
  | second :: rest => .alt (.ofList first) (.choice second rest)

/-- One set for all of several alternatives, or else the choice between them. -/
def Node.setOrChoice (first : List Node) (others : List (List Node)) : Node :=
  match (first :: others).mapM members? with
  | some members => .set ⟨false, members.flatten.eraseDups⟩
  | none => .choice first others

/-- The part for an alternative and others after it. -/
def Node.ofAlternatives (first : List Node) (others : List (List Node)) : Node :=
  if others.isEmpty then .ofList first
  else
    let (common, left, lefts) := splitCommon first others
    .ofList (common ++ [.setOrChoice left lefts])

end RegexSubst.Regex
