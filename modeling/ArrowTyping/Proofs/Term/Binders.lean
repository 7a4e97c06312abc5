import ArrowTyping.Proofs.Term.Relabel
import ArrowTyping.Term.Hole

set_option autoImplicit false

/-!
# Binders on the way down

What a name refers to is found by walking up from its place; statements about it are proved by
walking down.  So this module says what one step down changes.  A node may put a scope around one
of its children (`scopeBelow?`): a function its parameters around its body, a constant its name
around its rest.  For the names of this scope the node is the binder, all other names mean in the
child what they mean in the node.  A name that is free in the child and not in the scope is free in
the node (`mem_freeNames_of_child`), and a substitution that captures nothing in the node captures
nothing in the child (`AvoidsCapture.child`).

A hole is a stack of nodes with one child missing, a path is a list of steps to children.  Every
frame says which child is missing, so a hole has a path, and the path of a hole leads to whatever
has been put into it (`subterm?_fill`).
-/

namespace ArrowTyping

variable {α β : Type}

/-! ## The path to a hole -/

/-- Which child of the node is missing. -/
def Frame.step : Frame α → Step
  | .addLeft _ _ => .left
  | .addRight _ _ => .right
  | .ifTest _ _ _ => .test
  | .ifYes _ _ _ => .yes
  | .ifNo _ _ _ => .no
  | .funcBody _ _ => .body
  | .callCallee _ _ => .callee
  | .callArg _ _ before _ => .arg before.length
  | .seqFirst _ _ => .first
  | .seqRest _ _ => .rest
  | .constValue _ _ _ => .value
  | .constRest _ _ _ => .rest

/-- The missing child is the one that is plugged in. -/
@[simp] theorem Frame.child?_plug (frame : Frame α) (t : Term α) :
    (frame.plug t).child? frame.step = some t := by
  cases frame with
  | callArg note callee before after =>
    show (before ++ t :: after)[before.length]? = some t
    simp
  | _ => rfl

namespace Hole

/-- The way from the root to the hole. -/
def path (hole : Hole α) : Path := hole.map Frame.step

@[simp] theorem path_nil : path ([] : Hole α) = [] := rfl

@[simp] theorem path_cons (frame : Frame α) (hole : Hole α) :
    path (frame :: hole) = frame.step :: path hole := rfl

/-- The path of a hole leads to what has been put into the hole. -/
theorem subterm?_fill (hole : Hole α) (t : Term α) : (hole.fill t).subterm? hole.path = some t := by
  induction hole with
  | nil => exact Term.subterm?_nil t
  | cons frame hole ih =>
    rw [fill_cons, path_cons, Term.subterm?_cons, Frame.child?_plug, Option.bind_some, ih]

end Hole

/-! ## What a node binds in its children -/

namespace Term

variable {t t' s v : Term α} {step : Step} {x y : String}

/-- Seen from below a node, a name is bound by the nearest binder further down, or else by the node
itself. -/
theorem binder?_cons_of_child (hchild : t.child? step = some s) (path : Path) (x : String) :
    t.binder? (step :: path) x = ((s.binder? path x).map (.above step)).or (t.binds? step x) := by
  rw [binder?, hchild]

/-- So it has no binder if nothing further down binds it and the node does not either. -/
theorem binder?_plug_eq_none_iff (frame : Frame α) (t : Term α) (path : Path) (x : String) :
    (frame.plug t).binder? (frame.step :: path) x = none ↔
      t.binder? path x = none ∧ (frame.plug t).binds? frame.step x = none := by
  rw [binder?_cons_of_child (frame.child?_plug t), Option.or_eq_none_iff, Option.map_eq_none_iff]

/-- A free name of a child that the node does not bind is a free name of the node. -/
theorem mem_freeNames_of_child (hchild : t.child? step = some s)
    (hnode : t.binds? step x = none) (hx : x ∈ s.freeNames) : x ∈ t.freeNames := by
  obtain ⟨path, hfree⟩ := mem_freeNames_iff.1 hx
  exact mem_freeNames_iff.2 ⟨step :: path, freeAt_cons.2 ⟨s, hchild, hnode, hfree⟩⟩

/-- The scope that a node puts around one of its children, if it puts one there; `T` is the type
that a constant gives to its name. -/
def scopeBelow? : Term α → Step → (T : Ty) → Option Scope
  | .func _ params _, .body, _ => some params
  | .const _ name _ _, .rest, T => some [⟨name, T⟩]
  | _, _, _ => none

/-- A node binds the names of the scope that it puts around the child. -/
theorem binds?_eq_none_iff (T : Ty) :
    t.binds? step x = none ↔ ∀ scope ∈ t.scopeBelow? step T, x ∉ scope.names := by
  cases t with
  | func note params body =>
    cases step with
    | body => simp [binds?, scopeBelow?, Scope.lastIndex?_eq_none_iff]
    | _ => simp [binds?, scopeBelow?]
  | const note name value rest =>
    cases step with
    | rest => simp [binds?, scopeBelow?, eq_comm]
    | _ => simp [binds?, scopeBelow?]
  | _ => simp [binds?, scopeBelow?]

theorem binds?_eq_none_iff_of_scopeBelow? {T : Ty} {scope : Scope}
    (hscope : t.scopeBelow? step T = some scope) : t.binds? step x = none ↔ x ∉ scope.names := by
  rw [binds?_eq_none_iff T, hscope]
  simp

/-- Relabelling a term relabels the names of its scopes. -/
theorem scopeBelow?_relabel (f : α → β) (g : String → String) (h : Float → Float) (t : Term α)
    (step : Step) (T : Ty) :
    (t.relabel f g h).scopeBelow? step T =
      (t.scopeBelow? step T).map (List.map fun b => ⟨g b.name, b.ty⟩) := by
  cases t <;> cases step <;> simp [relabel, scopeBelow?]

theorem Alike.scopeBelow?_eq {f : α → β} {g : String → String} {h : Float → Float}
    (e : Alike f g h t t') (step : Step) (T : Ty) :
    (t.scopeBelow? step T).map (List.map fun b => (⟨g b.name, b.ty⟩ : Binding)) =
      (t'.scopeBelow? step T).map (List.map fun b => ⟨g b.name, b.ty⟩) := by
  rw [← scopeBelow?_relabel f g h t, ← scopeBelow?_relabel f g h t', e]

/-! ## Capture -/

/-- Seen from a free occurrence of `x` in a child, neither the child nor the node binds a free name
of `v`. -/
theorem AvoidsCapture.binder?_eq_none (h : t.AvoidsCapture x v) (hchild : t.child? step = some s)
    (hnode : t.binds? step x = none) {path : Path} (hfree : s.FreeAt path x)
    (hy : y ∈ v.freeNames) : s.binder? path y = none ∧ t.binds? step y = none := by
  have hnone : t.binder? (step :: path) y = none :=
    h (step :: path) (freeAt_cons.2 ⟨s, hchild, hnode, hfree⟩) y hy
  rw [binder?_cons_of_child hchild, Option.or_eq_none_iff, Option.map_eq_none_iff] at hnone
  exact hnone

/-- A substitution that captures nothing in a node captures nothing in a child in which it goes
on. -/
theorem AvoidsCapture.child (h : t.AvoidsCapture x v) (hchild : t.child? step = some s)
    (hnode : t.binds? step x = none) : s.AvoidsCapture x v :=
  fun _ hfree _ hy => (h.binder?_eq_none hchild hnode hfree hy).1

/-- If it finds something to replace in the child, the node binds no free name of `v` there. -/
theorem AvoidsCapture.binds?_eq_none (h : t.AvoidsCapture x v) (hchild : t.child? step = some s)
    (hnode : t.binds? step x = none) (hx : x ∈ s.freeNames) (hy : y ∈ v.freeNames) :
    t.binds? step y = none := by
  obtain ⟨path, hfree⟩ := mem_freeNames_iff.1 hx
  exact (h.binder?_eq_none hchild hnode hfree hy).2

end Term

end ArrowTyping
