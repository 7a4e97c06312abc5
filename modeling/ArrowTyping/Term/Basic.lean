import ArrowTyping.Scope
import ArrowTyping.Source

set_option autoImplicit false

/-!
# Terms

A `Term α` is a syntax tree in which every node carries a note of type `α`.  A tree as it was
read carries the place of each node (`Term Span`); a checked tree carries the place and the type
of each node (`Term Typed`).  Both are the same tree with other notes, so forgetting the types
of a checked tree is `Term.map Typed.span`.

A function binds its parameters in its body.  A constant binds its name in the rest of the
program, but not in its own value.  Numbers are carried along and never looked at.

The arguments of a call form a list, so functions on terms come with a companion on lists of
terms.  `Term.induction` hides that: in the case of a call it gives the statement for each
argument.

Several names can be bound one inside the other, by constants or by functions.  `Term.consts`
declares one constant after the other before a term; `Term.funcs` wraps a term in functions that
take one group of parameters after the other, and `Ty.arrows` is the type that this leads to.
-/

namespace ArrowTyping

/-- A syntax tree with a note on every node. -/
inductive Term (α : Type) where
  | bool (note : α) (value : Bool)
  | number (note : α) (value : Float)
  | add (note : α) (left right : Term α)
  /-- The value of `yes` or of `no`, as `test` decides. -/
  | ifElse (note : α) (test yes no : Term α)
  | var (note : α) (name : String)
  /-- A function; of two parameters with one name the last one counts. -/
  | func (note : α) (params : Scope) (body : Term α)
  | call (note : α) (callee : Term α) (args : List (Term α))
  /-- Runs `first` and goes on with `rest`. -/
  | seq (note : α) (first rest : Term α)
  /-- Gives the value a name for the `rest`. -/
  | const (note : α) (name : String) (value rest : Term α)
  deriving Repr

/-- What a checked node carries: its place and its type. -/
structure Typed where
  span : Span
  ty : Ty
  deriving DecidableEq, Repr

namespace Term

/-- Induction over terms in which the case of a call may use the statement for each argument. -/
@[elab_as_elim, induction_eliminator]
theorem induction {α : Type} {motive : Term α → Prop}
    (bool : ∀ note value, motive (.bool note value))
    (number : ∀ note value, motive (.number note value))
    (add : ∀ note left right, motive left → motive right → motive (.add note left right))
    (ifElse : ∀ note test yes no, motive test → motive yes → motive no →
      motive (.ifElse note test yes no))
    (var : ∀ note name, motive (.var note name))
    (func : ∀ note params body, motive body → motive (.func note params body))
    (call : ∀ note callee args, motive callee → (∀ a ∈ args, motive a) →
      motive (.call note callee args))
    (seq : ∀ note first rest, motive first → motive rest → motive (.seq note first rest))
    (const : ∀ note name value rest, motive value → motive rest →
      motive (.const note name value rest))
    (t : Term α) : motive t :=
  @Term.rec α motive (fun ts => ∀ a ∈ ts, motive a)
    bool number add ifElse var func call seq const
    (fun _ h => absurd h List.not_mem_nil)
    (fun _ _ ha has b hb => (List.mem_cons.1 hb).elim (fun e => e ▸ ha) (has b)) t

variable {α β : Type}

/-! ## Notes -/

/-- The note of the root. -/
def note : Term α → α
  | .bool note _ | .number note _ | .add note _ _ | .ifElse note _ _ _ | .var note _
  | .func note _ _ | .call note _ _ | .seq note _ _ | .const note _ _ _ => note

/-- The same tree with another note at the root. -/
def withNote (note : α) : Term α → Term α
  | .bool _ value => .bool note value
  | .number _ value => .number note value
  | .add _ left right => .add note left right
  | .ifElse _ test yes no => .ifElse note test yes no
  | .var _ name => .var note name
  | .func _ params body => .func note params body
  | .call _ callee args => .call note callee args
  | .seq _ first rest => .seq note first rest
  | .const _ name value rest => .const note name value rest

@[simp] theorem note_withNote (note : α) (t : Term α) : (t.withNote note).note = note := by
  cases t <;> rfl

/-! ## Relabelling -/

mutual

/-- Changes what a tree is labelled with and keeps its shape: `onNote` every note, `onName` every
name, at binders and where names are used, and `onNumber` every number. -/
def relabel (onNote : α → β) (onName : String → String) (onNumber : Float → Float) :
    Term α → Term β
  | .bool note value => .bool (onNote note) value
  | .number note value => .number (onNote note) (onNumber value)
  | .add note left right =>
    .add (onNote note) (left.relabel onNote onName onNumber) (right.relabel onNote onName onNumber)
  | .ifElse note test yes no =>
    .ifElse (onNote note) (test.relabel onNote onName onNumber)
      (yes.relabel onNote onName onNumber) (no.relabel onNote onName onNumber)
  | .var note name => .var (onNote note) (onName name)
  | .func note params body =>
    .func (onNote note) (params.map fun p => ⟨onName p.name, p.ty⟩)
      (body.relabel onNote onName onNumber)
  | .call note callee args =>
    .call (onNote note) (callee.relabel onNote onName onNumber)
      (relabelAll onNote onName onNumber args)
  | .seq note first rest =>
    .seq (onNote note) (first.relabel onNote onName onNumber) (rest.relabel onNote onName onNumber)
  | .const note name value rest =>
    .const (onNote note) (onName name) (value.relabel onNote onName onNumber)
      (rest.relabel onNote onName onNumber)

/-- Relabels each of the trees. -/
def relabelAll (onNote : α → β) (onName : String → String) (onNumber : Float → Float) :
    List (Term α) → List (Term β)
  | [] => []
  | t :: ts => t.relabel onNote onName onNumber :: relabelAll onNote onName onNumber ts

end

@[simp] theorem relabelAll_eq_map (f : α → β) (g : String → String) (h : Float → Float)
    (ts : List (Term α)) : relabelAll f g h ts = ts.map (relabel f g h) := by
  induction ts with
  | nil => rfl
  | cons t ts ih => simp [relabelAll, ih]

@[simp] theorem note_relabel (f : α → β) (g : String → String) (h : Float → Float) (t : Term α) :
    (t.relabel f g h).note = f t.note := by
  cases t <;> rfl

/-- The same tree with other notes. -/
def map (f : α → β) (t : Term α) : Term β := t.relabel f id id

/-- The tree with every name blanked out. -/
def blankNames (t : Term α) : Term α := t.relabel id (fun _ => "") id

/-- The tree with every number blanked out. -/
def blankNumbers (t : Term α) : Term α := t.relabel id id (fun _ => 0)

/-- The tree without its notes and numbers. -/
def skeleton (t : Term α) : Term Unit := (t.map fun _ => ()).blankNumbers

/-! ## Places and types -/

/-- The place of a node of a tree as it was read. -/
abbrev span (t : Term Span) : Span := t.note

/-- The type of a checked tree. -/
abbrev ty (t : Term Typed) : Ty := t.note.ty

/-- The type of a checked node by its kind: literals and sums have one of their own, a sequence and
a constant pass on that of their rest, and all other nodes carry theirs. -/
def delegatedTy : Term Typed → Ty
  | .bool _ _ => .boolean
  | .number _ _ | .add _ _ _ => .number
  | .ifElse note _ _ _ | .var note _ | .func note _ _ | .call note _ _ => note.ty
  | .seq _ _ rest | .const _ _ _ rest => rest.delegatedTy

/-- The tree that a checked tree was read as. -/
def erase (t : Term Typed) : Term Span := t.map Typed.span

end Term

/-! ## Chains of binders -/

/-- What a constant declares: its name, its value, and the note of the declaration. -/
structure Decl (α : Type) where
  note : α
  name : String
  value : Term α
  deriving Repr

namespace Term

variable {α : Type}

/-- Declares constants before a term, each in the reach of those before it. -/
def consts (decls : List (Decl α)) (t : Term α) : Term α :=
  decls.foldr (fun d t => .const d.note d.name d.value t) t

@[simp] theorem consts_nil (t : Term α) : consts [] t = t := rfl

@[simp] theorem consts_cons (d : Decl α) (decls : List (Decl α)) (t : Term α) :
    consts (d :: decls) t = .const d.note d.name d.value (consts decls t) := rfl

/-- Wraps a term in functions, the first group of parameters outermost. -/
def funcs (groups : List (α × Scope)) (t : Term α) : Term α :=
  groups.foldr (fun g t => .func g.1 g.2 t) t

@[simp] theorem funcs_nil (t : Term α) : funcs [] t = t := rfl

@[simp] theorem funcs_cons (g : α × Scope) (groups : List (α × Scope)) (t : Term α) :
    funcs (g :: groups) t = .func g.1 g.2 (funcs groups t) := rfl

end Term

/-- The type of a function that takes its parameters in groups. -/
def Ty.arrows (groups : List Scope) (ret : Ty) : Ty :=
  groups.foldr (fun g ret => .func g.types ret) ret

@[simp] theorem Ty.arrows_nil (ret : Ty) : Ty.arrows [] ret = ret := rfl

@[simp] theorem Ty.arrows_cons (g : Scope) (groups : List Scope) (ret : Ty) :
    Ty.arrows (g :: groups) ret = .func g.types (Ty.arrows groups ret) := rfl

end ArrowTyping
