import ArrowTyping.Env
import ArrowTyping.Term.Basic

set_option autoImplicit false

/-!
# Paths into a term

A `Path` leads from the root of a term to one of its subterms, one child at a time.  The same
path makes sense in every term of the same shape, so a path names corresponding nodes of a term
and of its checked tree.

Going down a checked tree, the environment grows by the parameters of every function that is
entered and by the name of every constant whose rest is entered, with the type of the value as
the tree records it.  `Term.envAt` collects these.
-/

namespace ArrowTyping

/-- Which child of a node. -/
inductive Step where
  | left
  | right
  | test
  | yes
  | no
  | body
  | callee
  | arg (index : Nat)
  | first
  | value
  /-- What follows in a sequence or after a constant. -/
  | rest
  deriving DecidableEq, Repr

/-- The children to take one after the other, beginning at the root. -/
abbrev Path := List Step

namespace Term

variable {α β : Type}

/-- The child of a node in a given place, if the node has one there. -/
def child? : Term α → Step → Option (Term α)
  | .add _ left _, .left => some left
  | .add _ _ right, .right => some right
  | .ifElse _ test _ _, .test => some test
  | .ifElse _ _ yes _, .yes => some yes
  | .ifElse _ _ _ no, .no => some no
  | .func _ _ body, .body => some body
  | .call _ callee _, .callee => some callee
  | .call _ _ args, .arg index => args[index]?
  | .seq _ first _, .first => some first
  | .seq _ _ rest, .rest => some rest
  | .const _ _ value _, .value => some value
  | .const _ _ _ rest, .rest => some rest
  | _, _ => none

/-- The subterm that a path leads to, if the path stays inside the term. -/
def subterm? : Term α → Path → Option (Term α)
  | t, [] => some t
  | t, step :: path => (t.child? step).bind fun child => child.subterm? path

@[simp] theorem subterm?_nil (t : Term α) : t.subterm? [] = some t := by
  rw [subterm?]

@[simp] theorem subterm?_cons (t : Term α) (step : Step) (path : Path) :
    t.subterm? (step :: path) = (t.child? step).bind fun child => child.subterm? path := by
  rw [subterm?]

theorem subterm?_append (t : Term α) (path path' : Path) :
    t.subterm? (path ++ path') = (t.subterm? path).bind fun s => s.subterm? path' := by
  induction path generalizing t with
  | nil => simp
  | cons step path ih =>
    simp only [List.cons_append, subterm?_cons, Option.bind_assoc]
    cases t.child? step with
    | none => rfl
    | some child => simp [ih]

/-- Relabelling a term relabels its children. -/
theorem child?_relabel (f : α → β) (g : String → String) (h : Float → Float) (t : Term α)
    (step : Step) : (t.relabel f g h).child? step = (t.child? step).map (relabel f g h) := by
  cases t <;> cases step <;> simp [relabel, child?]

/-- Relabelling a term relabels the subterm at every path. -/
theorem subterm?_relabel (f : α → β) (g : String → String) (h : Float → Float) (t : Term α)
    (path : Path) : (t.relabel f g h).subterm? path = (t.subterm? path).map (relabel f g h) := by
  induction path generalizing t with
  | nil => simp
  | cons step path ih =>
    simp only [subterm?_cons, child?_relabel]
    cases t.child? step with
    | none => rfl
    | some child => simp [ih]

/-- The environment in which a child of a checked node was checked. -/
def envBelow (env : Env) : Term Typed → Step → Env
  | .func _ params _, .body => env.extend params
  | .const _ name value _, .rest => env.extend [⟨name, value.ty⟩]
  | _, _ => env

/-- The environment in which the subterm at a path of a checked tree was checked. -/
def envAt (env : Env) : Term Typed → Path → Env
  | _, [] => env
  | t, step :: path =>
    match t.child? step with
    | some child => envAt (t.envBelow env step) child path
    | none => env

end Term

end ArrowTyping
