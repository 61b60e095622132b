import RegexSubst.Proofs.Template.Replacement

/-!
# `RegexSubst.Proofs.Template.Reuse`: one builder for many templates

A builder keeps its last build: the context, and how far the expansion came. A build that met a
fault leaves a control and a case mode behind that nothing has ended, a build of an unfinished
control leaves its segments and perhaps a mode, and a build that needed no scan leaves nothing. None
of this reaches the next build, because a build writes every field before it reads one.

* `Builder.build_eq_fresh`: one build of any builder is that of a fresh one.
* `Builder.afterAll` is the builder behind a sequence of builds.
* `buildAll_eq_replacements`: a sequence of builds gives the answers of as many fresh builders.
-/

set_option autoImplicit false

namespace RegexSubst.Template

namespace Builder

variable (b : Builder)

/-- Nothing of the last build survives a reset. -/
theorem reset_eq_fresh : b.reset = fresh := rfl

/-- What a builder holds has no influence on a build, neither on the answer nor on what is held
afterwards. -/
theorem build_eq_fresh (ctx : Context) (template : Text) :
    b.build ctx template = fresh.build ctx template := by
  simp only [build, reset_eq_fresh]

/-- The builder after some builds in order. -/
def afterAll (requests : List (Context × Text)) : Builder :=
  requests.foldl (fun b request => (b.build request.1 request.2).2) b

end Builder

/-- One builder may be used for any sequence of requests, with regexes that can be used or not and
with templates of all kinds. Whatever it held at first and whatever each build has left behind, every
answer, a replacement or a fault, is that of a fresh builder for the same request, and in the end the
builder does what a fresh one does. -/
theorem buildAll_eq_replacements (b : Builder) (requests : List (Context × Text)) :
    b.buildAll requests = requests.map (fun request => replacement request.1 request.2)
      ∧ ∀ ctx template,
        (b.afterAll requests).build ctx template = Builder.fresh.build ctx template := by
  constructor
  · -- The builder changes from one request to the next, so the induction is over all of them.
    induction requests generalizing b with
    | nil => rfl
    | cons request rest ih =>
      have hanswer : (b.build request.1 request.2).1 = replacement request.1 request.2 :=
        congrArg Prod.fst (b.build_eq_fresh request.1 request.2)
      show (b.build request.1 request.2).1 :: (b.build request.1 request.2).2.buildAll rest = _
      rw [hanswer, ih, List.map_cons]
  · -- Whatever the builder holds in the end, it is written before it is read.
    exact (b.afterAll requests).build_eq_fresh

/-- An unfinished control leaves its case mode behind, and what it has written. -/
example : (Builder.fresh.afterAll [(yearMatch, "\\Uin\\x4")]).expansion.output.mode = .upper
    ∧ (Builder.fresh.afterAll [(yearMatch, "\\Uin\\x4")]).expansion.output.text = "IN\\X4" := by
  decide +kernel

end RegexSubst.Template
