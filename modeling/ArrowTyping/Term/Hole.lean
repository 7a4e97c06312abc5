import ArrowTyping.Term.Names

set_option autoImplicit false

/-!
# Terms with a hole

A `Frame` is a node with one child missing, a `Hole` is a stack of frames with the root at the
front: a term from which one subterm has been taken out.  `Hole.fill` puts a term there.  Every
child of every kind of node has its frame, so a hole may be anywhere in a term.

What may be changed in a hole can be changed anywhere.  `Term.Rebracket` lists the ways in which a
run of statements can be bracketed differently at the root of a term: a sequence may stand in the
first part of another sequence or in its rest, and a constant may be declared around the
statements that follow it or around only some of them.  A declaration moves outwards only if the
statements that come into its reach do not use its name.  The root keeps its note; the other node
that is taken apart and put together again may get any note.  `Term.Rebracketed` closes these
rules under going back, being applied in any hole, and being applied any number of times.
-/

namespace ArrowTyping

/-- A node with one child missing; the fields are its note, its labels and the other
children. -/
inductive Frame (α : Type) where
  | addLeft (note : α) (right : Term α)
  | addRight (note : α) (left : Term α)
  | ifTest (note : α) (yes no : Term α)
  | ifYes (note : α) (test no : Term α)
  | ifNo (note : α) (test yes : Term α)
  | funcBody (note : α) (params : Scope)
  | callCallee (note : α) (args : List (Term α))
  /-- An argument between those `before` it and those `after` it. -/
  | callArg (note : α) (callee : Term α) (before after : List (Term α))
  | seqFirst (note : α) (rest : Term α)
  | seqRest (note : α) (first : Term α)
  | constValue (note : α) (name : String) (rest : Term α)
  | constRest (note : α) (name : String) (value : Term α)
  deriving Repr

variable {α : Type}

/-- The node with a term in the place of the missing child. -/
def Frame.plug (t : Term α) : Frame α → Term α
  | .addLeft note right => .add note t right
  | .addRight note left => .add note left t
  | .ifTest note yes no => .ifElse note t yes no
  | .ifYes note test no => .ifElse note test t no
  | .ifNo note test yes => .ifElse note test yes t
  | .funcBody note params => .func note params t
  | .callCallee note args => .call note t args
  | .callArg note callee before after => .call note callee (before ++ t :: after)
  | .seqFirst note rest => .seq note t rest
  | .seqRest note first => .seq note first t
  | .constValue note name rest => .const note name t rest
  | .constRest note name value => .const note name value t

@[simp] theorem Frame.note_plug (f : Frame α) (t t' : Term α) :
    (f.plug t).note = (f.plug t').note := by
  cases f <;> rfl

/-- A term with a hole, as the frames around the hole from the root inwards. -/
abbrev Hole (α : Type) := List (Frame α)

namespace Hole

/-- The term with `t` in the hole. -/
def fill (hole : Hole α) (t : Term α) : Term α := hole.foldr (fun frame t => frame.plug t) t

@[simp] theorem fill_nil (t : Term α) : fill [] t = t := rfl

@[simp] theorem fill_cons (frame : Frame α) (hole : Hole α) (t : Term α) :
    fill (frame :: hole) t = frame.plug (fill hole t) := rfl

end Hole

/-! ## Rebracketing -/

namespace Term

/-- Two bracketings of the same statements, different at the root. -/
inductive Rebracket : Term α → Term α → Prop where
  | seqSeq (note inner inner' : α) (a b c : Term α) :
    Rebracket (.seq note (.seq inner a b) c) (.seq note a (.seq inner' b c))
  | constSeq (note inner inner' : α) (x : String) (a v r : Term α) :
    Rebracket (.const note x (.seq inner a v) r) (.seq note a (.const inner' x v r))
  | seqConst (note inner inner' : α) {x : String} (v a : Term α) {b : Term α}
    (unused : x ∉ b.freeNames) :
    Rebracket (.seq note (.const inner x v a) b) (.const note x v (.seq inner' a b))
  | constConst (note inner inner' : α) {x y : String} (w v : Term α) {r : Term α}
    (unused : y = x ∨ y ∉ r.freeNames) :
    Rebracket (.const note x (.const inner y w v) r) (.const note y w (.const inner' x v r))

/-- Two bracketings of the same program. -/
inductive Rebracketed : Term α → Term α → Prop where
  | rule (hole : Hole α) {t t' : Term α} (h : Rebracket t t') :
    Rebracketed (hole.fill t) (hole.fill t')
  | refl (t : Term α) : Rebracketed t t
  | symm {t t' : Term α} (h : Rebracketed t t') : Rebracketed t' t
  | trans {t t' t'' : Term α} (h : Rebracketed t t') (h' : Rebracketed t' t'') :
    Rebracketed t t''

/-- A change of brackets leaves the root's note alone. -/
theorem Rebracket.note_eq {t t' : Term α} (h : Rebracket t t') : t.note = t'.note := by
  cases h <;> rfl

end Term

end ArrowTyping
