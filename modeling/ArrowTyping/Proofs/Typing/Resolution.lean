import ArrowTyping.Proofs.Term.Binders
import ArrowTyping.Proofs.Typing.CheckedTree
import ArrowTyping.Proofs.Typing.FirstViolation

set_option autoImplicit false

/-!
# Names mean what their binders say

Checking looks a name up in a chain of scopes that grows on the way down.  `Term.binder?` knows no
types and no scopes: it looks for the nearest binder above the place where the name is used.  The
two agree at every place.

For a checked tree this is `lookup?_envAt`: what the chain at a place says of a name is what the
nearest binder says in the tree, and if there is none, what the environment at the root says.  It
follows from the same statement for one step down (`lookup?_envBelow`).  For a check that fails
there is no tree; but what is not bound at a place that checking came to is bound neither by a
node above it nor by the environment at the root (`Hole.Reaches.lookup?_eq_none`).
-/

namespace ArrowTyping

open Term

/-! ## Binders do not depend on notes -/

section Notes

variable {α β : Type} (f : α → β)

theorem Term.child?_map (t : Term α) (step : Step) :
    (t.map f).child? step = (t.child? step).map (map f) :=
  child?_relabel f id id t step

theorem Term.subterm?_map (t : Term α) (path : Path) :
    (t.map f).subterm? path = (t.subterm? path).map (map f) :=
  subterm?_relabel f id id t path

theorem Term.binds?_map (t : Term α) (step : Step) (x : String) :
    (t.map f).binds? step x = t.binds? step x := by
  cases t with
  | func note params body => rw [map_func]; cases step <;> rfl
  | const note name value rest => cases step <;> rfl
  | _ => rfl

/-- Which binder a name refers to is the same whatever the nodes carry. -/
theorem Term.binder?_map (t : Term α) (path : Path) (x : String) :
    (t.map f).binder? path x = t.binder? path x := by
  induction path generalizing t with
  | nil => rw [binder?, binder?]
  | cons step path ih =>
    rw [binder?, binder?, child?_map]
    cases t.child? step with
    | none => rfl
    | some child => simp only [Option.map_some, ih, binds?_map]

end Notes

/-! ## Names in a checked tree -/

section Checked

variable {env : Env} {y : Term Typed}

/-- A binder below a node gives its name the same type when it is seen from the node. -/
theorem Term.binderTy?_above {step : Step} {child : Term Typed} (h : y.child? step = some child)
    (b : Binder) : y.binderTy? (b.above step) = child.binderTy? b := by
  cases b with
  | param path index => simp only [Binder.above, binderTy?, subterm?_cons, h, Option.bind_some]
  | const path => simp only [Binder.above, binderTy?, subterm?_cons, h, Option.bind_some]

/-- One step down, a name has the type that the node gives it, or else the type that it had. -/
theorem Term.lookup?_envBelow (env : Env) (y : Term Typed) (step : Step) (x : String) :
    (y.envBelow env step).lookup? x =
      match y.binds? step x with
      | some b => y.binderTy? b
      | none => env.lookup? x := by
  cases y with
  | func note params body =>
    cases step with
    | body =>
      rw [envBelow, Env.lookup?_extend, Scope.lookup?_eq_lastIndex?, binds?]
      cases hindex : Scope.lastIndex? params x with
      | none => rfl
      | some index =>
        -- The last parameter of this name exists, so the scope outside is not looked at.
        obtain ⟨T, hparam⟩ := Scope.getElem?_lastIndex? hindex
        simp [binderTy?, hparam]
    | _ => rfl
  | const note name value rest =>
    cases step with
    | rest =>
      rw [envBelow, Env.lookup?_extend, binds?]
      by_cases hname : name = x
      · simp [hname, binderTy?]
      · simp [hname]
    | _ => rfl
  | _ => rfl

/-- At every place of a checked tree a name has the type that its nearest binder gives it, or else
the type that it has at the root. -/
theorem Term.lookup?_envAt {s : Term Typed} {path : Path} (h : y.subterm? path = some s)
    (x : String) :
    (y.envAt env path).lookup? x =
      match y.binder? path x with
      | some b => y.binderTy? b
      | none => env.lookup? x := by
  induction path generalizing env y with
  | nil => rw [envAt, binder?]
  | cons step path ih =>
    rw [subterm?_cons, Option.bind_eq_some_iff] at h
    obtain ⟨child, hchild, hs⟩ := h
    rw [envAt_cons_of_child hchild, ih hs, binder?_cons_of_child hchild]
    cases child.binder? path x with
    | some b => exact (binderTy?_above hchild b).symm
    | none => exact lookup?_envBelow env y step x

/-- A name in a checked tree has the type of its nearest binder, or else that of the
environment. -/
theorem lookup?_of_check_var {t : Term Span} {path : Path} {span : Span} {x : String}
    (h : t.check env = .ok y) (hs : t.subterm? path = some (.var span x)) :
    ∃ T, y.subterm? path = some (.var ⟨span, T⟩ x) ∧
      (match t.binder? path x with
        | some b => y.binderTy? b
        | none => env.lookup? x) = some T := by
  obtain ⟨s', hs', hvar⟩ := exists_subterm_of_check h hs
  obtain ⟨T, hT, rfl⟩ := check_var_eq_ok_iff.1 hvar
  have hbinder : t.binder? path x = y.binder? path x := by
    rw [← erase_of_check h, erase, binder?_map]
  refine ⟨T, hs', ?_⟩
  rw [hbinder, ← lookup?_envAt hs' x]
  exact hT

end Checked

/-! ## Names that nothing binds -/

section Unbound

variable {env inner : Env} {x : String}

/-- What is not bound in a child that checking comes to is neither bound by the node nor by the
environment of the node. -/
theorem Frame.Enters.lookup?_eq_none {frame : Frame Span} (enters : frame.Enters env inner)
    (h : inner.lookup? x = none) (t : Term Span) :
    (frame.plug t).binds? frame.step x = none ∧ env.lookup? x = none := by
  cases enters with
  | @funcBody span params =>
    rw [Env.lookup?_extend, Option.or_eq_none_iff] at h
    refine ⟨?_, h.2⟩
    have hindex : Scope.lastIndex? params x = none :=
      Scope.lastIndex?_eq_none_iff.2 (Scope.lookup?_eq_none_iff_names.1 h.1)
    rw [Frame.plug, Frame.step, binds?, hindex, Option.map_none]
  | @constRest span name value T value_ty =>
    rw [Env.lookup?_extend, Option.or_eq_none_iff] at h
    refine ⟨?_, h.2⟩
    have hname : name ≠ x := by simpa using h.1
    rw [Frame.plug, Frame.step, binds?, if_neg hname]
  | _ => exact ⟨rfl, h⟩

/-- What is not bound at a place that checking comes to has no binder above it and is not bound by
the environment at the root. -/
theorem Hole.Reaches.lookup?_eq_none {hole : Hole Span} (reaches : hole.Reaches env inner)
    (h : inner.lookup? x = none) (t : Term Span) :
    (hole.fill t).binder? hole.path x = none ∧ env.lookup? x = none := by
  induction reaches with
  | here =>
    refine ⟨?_, h⟩
    rw [path_nil, binder?]
  | @step env frame between hole inner enters _ ih =>
    obtain ⟨hbelow, hbetween⟩ := ih h
    obtain ⟨hnode, henv⟩ := enters.lookup?_eq_none hbetween (hole.fill t)
    exact ⟨(binder?_plug_eq_none_iff frame _ _ x).2 ⟨hbelow, hnode⟩, henv⟩

/-- A name that is reported as unbound is used free at the reported place, and the environment does
not bind it. -/
theorem exists_free_of_unbound {t : Term Span} {position : Position}
    (h : t.infer env = .error ⟨.unbound x, position⟩) :
    ∃ path span, t.subterm? path = some (.var span x) ∧ t.binder? path x = none ∧
      span.start = position ∧ env.lookup? x = none := by
  obtain ⟨hole, s, inner, rfl, hreaches, hbreaks⟩ := firstViolation_of_infer_error h
  cases hbreaks with
  | @unbound span _ hunbound =>
    obtain ⟨hbinder, henv⟩ := hreaches.lookup?_eq_none hunbound (.var span x)
    exact ⟨hole.path, span, hole.subterm?_fill _, hbinder, rfl, henv⟩

end Unbound

/-! ## Resolution -/

/-- A successful check gives back its term, and each name in it has the type of the binder that it
refers to by syntax alone, or that of the environment if it refers to none.  A name that is
reported as unbound is used free at that place and the environment does not bind it; so a check
neither reports a bound name as unbound nor succeeds with a free name that the environment does not
bind. -/
theorem check_resolves_names (env : Env) (t : Term Span) :
    (∀ y, t.check env = .ok y → y.erase = t ∧
      (∀ path note x, y.subterm? path = some (.var note x) →
        (∀ b, t.binder? path x = some b → y.binderTy? b = some note.ty) ∧
        (t.binder? path x = none → env.lookup? x = some note.ty)) ∧
      ∀ x ∈ t.freeNames, env.lookup? x ≠ none) ∧
    ∀ x position, t.check env = .error ⟨.unbound x, position⟩ →
      ∃ path span, t.subterm? path = some (.var span x) ∧ t.binder? path x = none ∧
        span.start = position ∧ env.lookup? x = none := by
  refine ⟨?_, ?_⟩
  · intro y h
    refine ⟨erase_of_check h, ?_, ?_⟩
    · intro path note x hvar
      have hs : t.subterm? path = some (.var note.span x) := by
        rw [← erase_of_check h, erase, subterm?_map, hvar, Option.map_some, map_var]
      obtain ⟨T, hvar', hT⟩ := lookup?_of_check_var h hs
      have hnode : Term.var note x = .var ⟨note.span, T⟩ x :=
        Option.some.inj (hvar.symm.trans hvar')
      have hty : note.ty = T := congrArg Typed.ty (Term.var.inj hnode).1
      rw [hty]
      refine ⟨?_, ?_⟩
      · intro b hb
        rwa [hb] at hT
      · intro hfree
        rwa [hfree] at hT
    · intro x hx
      obtain ⟨path, ⟨span, hs⟩, hfree⟩ := mem_freeNames_iff.1 hx
      obtain ⟨T, -, hT⟩ := lookup?_of_check_var h hs
      rw [hfree] at hT
      simp only at hT
      rw [hT]
      exact Option.some_ne_none T
  · intro x position h
    exact exists_free_of_unbound (infer_eq_error_iff.2 h)

/-- The program `const x = x; x`, whose value is read from offset 10 of the file `f`. -/
def selfReferringProgram : Term Span :=
  .const .synthetic "x" (.var (.within "f" 10 11) "x") (.var .synthetic "x")

/-- In `overridingProgram` the body of the function refers to the second parameter, a number.  In
`selfReferringProgram` the value refers to nothing, because a constant does not bind its name in its
own value. -/
theorem check_resolves_example_programs :
    (∃ y, overridingProgram.check .empty = .ok y ∧ y.erase = overridingProgram ∧
      y.subterm? [.rest, .callee, .body] = some (.var ⟨.synthetic, .number⟩ "x") ∧
      overridingProgram.binder? [.rest, .callee, .body] "x" = some (.param [.rest, .callee] 1) ∧
      y.binderTy? (.param [.rest, .callee] 1) = some .number) ∧
    selfReferringProgram.check .empty = .error ⟨.unbound "x", ⟨10, "f"⟩⟩ ∧
    ∃ path span, selfReferringProgram.subterm? path = some (.var span "x") ∧
      selfReferringProgram.binder? path "x" = none ∧ span.start = ⟨10, "f"⟩ ∧
      Env.empty.lookup? "x" = none := by
  refine ⟨?_, rfl, ?_⟩
  · obtain ⟨herase, hnames, -⟩ := (check_resolves_names .empty overridingProgram).1 _ rfl
    have hbody := hnames [.rest, .callee, .body] ⟨.synthetic, .number⟩ "x" rfl
    exact ⟨_, rfl, herase, rfl, rfl, hbody.1 _ rfl⟩
  · exact (check_resolves_names .empty selfReferringProgram).2 "x" ⟨10, "f"⟩ rfl

end ArrowTyping
