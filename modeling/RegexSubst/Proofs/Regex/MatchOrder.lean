import RegexSubst.Regex.Program

/-!
# `RegexSubst.Proofs.Regex.MatchOrder`: the matches of a text come in order

A search goes on where the last match has ended. So the matches of a text are found from left to
right, and no two of them share a character.

* `InOrder` says so of a list of matches, from a position on.
* `Program.inOrder_findAll` is the statement for all matches of a text.
-/

set_option autoImplicit false

namespace RegexSubst.Regex

variable {size : Nat}

/-- The matches follow one another, and none begins before `position`. -/
def InOrder (position : Nat) : List (Match size) → Prop
  | [] => True
  | m :: rest => position ≤ m.start ∧ InOrder m.stop rest

namespace InOrder

/-- The first matches are in order if all are. -/
theorem take {position : Nat} {found : List (Match size)} (h : InOrder position found) (n : Nat) :
    InOrder position (found.take n) := by
  induction found generalizing position n with
  | nil => simp [InOrder]
  | cons m rest ih =>
    cases n with
    | zero => trivial
    | succ n => exact ⟨h.1, ih h.2 n⟩

/-- All matches begin at `position` or behind it. -/
theorem le_start {position : Nat} {found : List (Match size)} (h : InOrder position found)
    {m : Match size} (hm : m ∈ found) : position ≤ m.start := by
  induction found generalizing position with
  | nil => cases hm
  | cons first rest ih =>
    rcases List.mem_cons.mp hm with rfl | hrest
    · exact h.1
    · exact Nat.le_trans (Nat.le_trans h.1 first.start_le_stop) (ih h.2 hrest)

/-- No match begins before an earlier one has ended. -/
theorem pairwise {position : Nat} {found : List (Match size)} (h : InOrder position found) :
    found.Pairwise fun m n => m.stop ≤ n.start := by
  induction found generalizing position with
  | nil => exact .nil
  | cons m rest ih => exact .cons (fun n hn => h.2.le_start hn) (ih h.2)

end InOrder

namespace Program

variable (p : Program) (input : Array CodePoint)

/-- A search from `start` finds its matches in order, and none of them begins before `start`. -/
theorem inOrder_matchesFrom (start : Nat) (mustAdvance : Bool) :
    InOrder start (p.matchesFrom input start mustAdvance) := by
  fun_induction p.matchesFrom input start mustAdvance with
  | case1 start mustAdvance hnone => trivial
  -- The search goes on from the end of the match, which is where the next one may begin.
  | case2 start mustAdvance m h hsome ih => exact ⟨h.1, ih⟩

/-- The matches of a text come in order. -/
theorem inOrder_findAll : InOrder 0 (p.findAll input) :=
  p.inOrder_matchesFrom input 0 false

end Program

end RegexSubst.Regex
