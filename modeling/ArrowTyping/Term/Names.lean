import ArrowTyping.Term.Path

set_option autoImplicit false

/-!
# Names and what they refer to

Which binder a name refers to is a matter of syntax alone.  Walking up from the place where the
name is used, the nearest function with a parameter of that name or the nearest constant of that
name is its binder; of two parameters with one name the last one counts, and a constant binds
its name in its rest but not in its value.  A name without a binder above it is free.

`Term.binder?` finds the binder of a name seen from a path, `Term.freeNames` lists the names that
are used free, and two terms are `AlphaEquiv` when they differ only in how binders, and the names
that refer to them, are called.

`t.subst x v` is `t` with the term `v` in the place of every free occurrence of the name `x`.  Each
copy of `v` takes over the note of the occurrence that it replaces, so that an error at the copy
is reported where the name stood.  Below a binder of `x` nothing is replaced.  Nothing is renamed
on the way, so a copy of `v` may end up below a binder of one of its own free names;
`Term.AvoidsCapture` says that this does not happen.
-/

namespace ArrowTyping

/-- What binds a name: a parameter of a function or a constant, found at the given path. -/
inductive Binder where
  | param (func : Path) (index : Nat)
  | const (decl : Path)
  deriving DecidableEq, Repr

/-- The same binder seen from the parent of the node that its path began at. -/
def Binder.above (step : Step) : Binder → Binder
  | .param func index => .param (step :: func) index
  | .const decl => .const (step :: decl)

/-- The position of the last binding of a name. -/
def Scope.lastIndex? : Scope → String → Option Nat
  | [], _ => none
  | b :: s, x => ((lastIndex? s x).map (· + 1)).or (if b.name = x then some 0 else none)

theorem Scope.getElem?_lastIndex? {s : Scope} {x : String} {i : Nat}
    (h : s.lastIndex? x = some i) : ∃ t, s[i]? = some ⟨x, t⟩ := by
  induction s generalizing i with
  | nil => simp [lastIndex?] at h
  | cons b s ih =>
    rw [lastIndex?, Option.or_eq_some_iff] at h
    rcases h with h | ⟨_, h⟩
    · obtain ⟨k, hk, rfl⟩ := Option.map_eq_some_iff.1 h
      simpa using ih hk
    · split at h
      · next hname =>
        cases h
        exact ⟨b.ty, by cases b; simp_all⟩
      · simp at h

theorem Scope.lastIndex?_eq_none_iff {s : Scope} {x : String} :
    s.lastIndex? x = none ↔ x ∉ s.names := by
  induction s with
  | nil => simp [lastIndex?, names]
  | cons b s ih =>
    rw [lastIndex?, Option.or_eq_none_iff, Option.map_eq_none_iff, ih]
    by_cases h : b.name = x
    · simp [h, names]
    · simp [h, names, Ne.symm h]

/-- The last binding of a name is the one that a lookup finds. -/
theorem Scope.lookup?_eq_lastIndex? (s : Scope) (x : String) :
    s.lookup? x = (s.lastIndex? x).bind fun i => s[i]?.map Binding.ty := by
  induction s with
  | nil => rfl
  | cons b s ih =>
    rw [Scope.lookup?_cons, ih, lastIndex?]
    cases h : lastIndex? s x with
    | none => by_cases hname : b.name = x <;> simp [hname]
    | some i =>
      obtain ⟨t, ht⟩ := getElem?_lastIndex? h
      simp [ht]

namespace Term

variable {α : Type}

/-- The binder that a node itself is for a name that is used below it, in the given child. -/
def binds? : Term α → Step → String → Option Binder
  | .func _ params _, .body, x => (params.lastIndex? x).map (.param [])
  | .const _ name _ _, .rest, x => if name = x then some (.const []) else none
  | _, _, _ => none

/-- The nearest binder of a name above the node at a path, if there is one. -/
def binder? : Term α → Path → String → Option Binder
  | _, [], _ => none
  | t, step :: path, x =>
    match t.child? step with
    | some child => ((child.binder? path x).map (.above step)).or (t.binds? step x)
    | none => none

/-- The type that a binder of a checked tree gives to its name. -/
def binderTy? (t : Term Typed) : Binder → Option Ty
  | .param path index =>
    match t.subterm? path with
    | some (.func _ params _) => params[index]?.map Binding.ty
    | _ => none
  | .const path =>
    match t.subterm? path with
    | some (.const _ _ value _) => some value.ty
    | _ => none

/-- The name `x` is used at the end of the path and nothing above it binds it. -/
def FreeAt (t : Term α) (path : Path) (x : String) : Prop :=
  (∃ note, t.subterm? path = some (.var note x)) ∧ t.binder? path x = none

mutual

/-- The names that are used free, with repetitions. -/
def freeNames : Term α → List String
  | .bool _ _ | .number _ _ => []
  | .add _ left right => left.freeNames ++ right.freeNames
  | .ifElse _ test yes no => test.freeNames ++ yes.freeNames ++ no.freeNames
  | .var _ name => [name]
  | .func _ params body => body.freeNames.filter (· ∉ params.names)
  | .call _ callee args => callee.freeNames ++ freeNamesAll args
  | .seq _ first rest => first.freeNames ++ rest.freeNames
  | .const _ name value rest => value.freeNames ++ rest.freeNames.filter (· ≠ name)

/-- The names that are used free in one of the terms. -/
def freeNamesAll : List (Term α) → List String
  | [] => []
  | t :: ts => t.freeNames ++ freeNamesAll ts

end

theorem mem_freeNamesAll {ts : List (Term α)} {x : String} :
    x ∈ freeNamesAll ts ↔ ∃ t ∈ ts, x ∈ t.freeNames := by
  induction ts with
  | nil => simp [freeNamesAll]
  | cons t ts ih => simp [freeNamesAll, ih]

theorem mem_freeNames_func {note : α} {params : Scope} {body : Term α} {x : String} :
    x ∈ (func note params body).freeNames ↔ x ∈ body.freeNames ∧ x ∉ params.names := by
  simp [freeNames]

theorem mem_freeNames_const {note : α} {name : String} {value rest : Term α} {x : String} :
    x ∈ (const note name value rest).freeNames ↔
      x ∈ value.freeNames ∨ (x ∈ rest.freeNames ∧ x ≠ name) := by
  simp [freeNames]

theorem mem_freeNames_call {note : α} {callee : Term α} {args : List (Term α)} {x : String} :
    x ∈ (call note callee args).freeNames ↔
      x ∈ callee.freeNames ∨ ∃ a ∈ args, x ∈ a.freeNames := by
  simp [freeNames, mem_freeNamesAll]

/-! ## Free names and free occurrences -/

theorem freeAt_nil {t : Term α} {x : String} : t.FreeAt [] x ↔ ∃ note, t = .var note x := by
  simp [FreeAt, binder?]

theorem freeAt_cons {t : Term α} {step : Step} {path : Path} {x : String} :
    t.FreeAt (step :: path) x ↔
      ∃ child, t.child? step = some child ∧ t.binds? step x = none ∧ child.FreeAt path x := by
  cases h : t.child? step with
  | none => simp [FreeAt, h]
  | some child =>
    simp only [FreeAt, subterm?_cons, h, Option.bind_some, binder?, Option.or_eq_none_iff,
      Option.map_eq_none_iff, Option.some.injEq, exists_eq_left']
    constructor
    · rintro ⟨hvar, hfree, hnode⟩
      exact ⟨hnode, hvar, hfree⟩
    · rintro ⟨hnode, hvar, hfree⟩
      exact ⟨hvar, hfree, hnode⟩

/-- A free occurrence is the root itself or lies in a child below which the root does not bind
the name. -/
theorem exists_freeAt_iff {t : Term α} {x : String} :
    (∃ path, t.FreeAt path x) ↔ (∃ note, t = .var note x) ∨
      ∃ step child, t.child? step = some child ∧ t.binds? step x = none ∧
        ∃ path, child.FreeAt path x := by
  constructor
  · rintro ⟨path, h⟩
    cases path with
    | nil => exact .inl (freeAt_nil.1 h)
    | cons step path =>
      obtain ⟨child, hchild, hnode, hfree⟩ := freeAt_cons.1 h
      exact .inr ⟨step, child, hchild, hnode, path, hfree⟩
  · rintro (h | ⟨step, child, hchild, hnode, path, hfree⟩)
    · exact ⟨[], freeAt_nil.2 h⟩
    · exact ⟨step :: path, freeAt_cons.2 ⟨child, hchild, hnode, hfree⟩⟩

theorem exists_step {p : Step → Prop} :
    (∃ step, p step) ↔ p .left ∨ p .right ∨ p .test ∨ p .yes ∨ p .no ∨ p .body ∨ p .callee ∨
      (∃ index, p (.arg index)) ∨ p .first ∨ p .value ∨ p .rest := by
  constructor
  · rintro ⟨step, h⟩
    cases step with
    | arg index => exact .inr (.inr (.inr (.inr (.inr (.inr (.inr (.inl ⟨index, h⟩)))))))
    | _ => simp only [h, true_or, or_true]
  · rintro (h | h | h | h | h | h | h | ⟨_, h⟩ | h | h | h) <;> exact ⟨_, h⟩

/-- The free names are those that occur free somewhere. -/
theorem mem_freeNames_iff {t : Term α} {x : String} :
    x ∈ t.freeNames ↔ ∃ path, t.FreeAt path x := by
  induction t with
  | bool | number =>
    rw [exists_freeAt_iff]
    simp [child?, freeNames]
  | add note left right ihl ihr =>
    rw [exists_freeAt_iff]
    simp [exists_step, child?, freeNames, binds?, ihl, ihr]
  | ifElse note test yes no iht ihy ihn =>
    rw [exists_freeAt_iff]
    simp [exists_step, child?, freeNames, binds?, iht, ihy, ihn]
  | var note name =>
    rw [exists_freeAt_iff]
    simp [child?, freeNames, eq_comm]
  | func note params body ih =>
    rw [exists_freeAt_iff, mem_freeNames_func]
    simp [exists_step, child?, binds?, ih, Scope.lastIndex?_eq_none_iff, and_comm]
  | call note callee args ihc ihs =>
    rw [exists_freeAt_iff, mem_freeNames_call]
    have hargs : (∃ a, a ∈ args ∧ x ∈ a.freeNames) ↔
        ∃ (index : Nat) (a : Term α), args[index]? = some a ∧ ∃ path, a.FreeAt path x := by
      constructor
      · rintro ⟨a, ha, hx⟩
        obtain ⟨index, hindex⟩ := List.mem_iff_getElem?.1 ha
        exact ⟨index, a, hindex, (ihs a ha).1 hx⟩
      · rintro ⟨index, a, hindex, hx⟩
        have ha := List.mem_iff_getElem?.2 ⟨index, hindex⟩
        exact ⟨a, ha, (ihs a ha).2 hx⟩
    simp [exists_step, child?, binds?, ihc, hargs]
  | seq note first rest ihf ihr =>
    rw [exists_freeAt_iff]
    simp [exists_step, child?, freeNames, binds?, ihf, ihr]
  | const note name value rest ihv ihr =>
    rw [exists_freeAt_iff, mem_freeNames_const]
    simp [exists_step, child?, binds?, ihv, ihr, and_comm, ne_comm]

/-! ## Renaming -/

/-- Two terms with the same notes and numbers and of the same shape that differ at most in the
names of binders and of what refers to them: corresponding names either have the same binder, or
are both free and are the same name. -/
def AlphaEquiv (t t' : Term α) : Prop :=
  t.blankNames = t'.blankNames ∧
    ∀ path note note' x x', t.subterm? path = some (.var note x) →
      t'.subterm? path = some (.var note' x') →
        t.binder? path x = t'.binder? path x' ∧ (t.binder? path x = none → x = x')

/-! ## Substitution -/

mutual

/-- The term `t` with `v` in the place of every free `x`. -/
def subst (t : Term α) (x : String) (v : Term α) : Term α :=
  match t with
  | .bool note value => .bool note value
  | .number note value => .number note value
  | .add note left right => .add note (left.subst x v) (right.subst x v)
  | .ifElse note test yes no => .ifElse note (test.subst x v) (yes.subst x v) (no.subst x v)
  | .var note name => if name = x then v.withNote note else .var note name
  | .func note params body =>
    .func note params (if x ∈ params.names then body else body.subst x v)
  | .call note callee args => .call note (callee.subst x v) (substAll args x v)
  | .seq note first rest => .seq note (first.subst x v) (rest.subst x v)
  | .const note name value rest =>
    .const note name (value.subst x v) (if name = x then rest else rest.subst x v)

/-- Substitutes in each of the terms. -/
def substAll (ts : List (Term α)) (x : String) (v : Term α) : List (Term α) :=
  match ts with
  | [] => []
  | t :: ts => t.subst x v :: substAll ts x v

end

@[simp] theorem substAll_eq_map (ts : List (Term α)) (x : String) (v : Term α) :
    substAll ts x v = ts.map fun t => t.subst x v := by
  induction ts with
  | nil => rfl
  | cons t ts ih => simp [substAll, ih]

/-- A substitution leaves the root's note alone, also where it replaces the root. -/
@[simp] theorem note_subst (t : Term α) (x : String) (v : Term α) :
    (t.subst x v).note = t.note := by
  cases t with
  | var note name =>
    rw [subst]
    split
    · exact note_withNote note v
    · rfl
  | _ => rfl

/-- No free name of `v` is bound at a place where `t` uses `x` free. -/
def AvoidsCapture (t : Term α) (x : String) (v : Term α) : Prop :=
  ∀ path, t.FreeAt path x → ∀ y ∈ v.freeNames, t.binder? path y = none

end Term

end ArrowTyping
