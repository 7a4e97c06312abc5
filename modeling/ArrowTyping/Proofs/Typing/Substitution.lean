import ArrowTyping.Proofs.Typing.TwoRuns
import ArrowTyping.Proofs.Typing.Weakening

set_option autoImplicit false

/-!
# Substitution

A name that the environment binds is checked exactly like the term it stands for.  If `v` has the
type `T`, then checking `r` with `v` in the place of every free `x` gives the type or the error
that checking `r` gives in an environment where `x` has the type `T`, as long as no copy of `v`
gets below a binder of one of its own free names.

The induction goes down `r` in both runs.  Below a binder both environments have grown, and `v` is
now checked in an environment in which it may never have been checked before; `StandsFor` says what
still holds there.  It passes to every child (`StandsFor.child`, `StandsFor.extend`), except to one
in which `x` is bound anew.  There nothing is substituted, and the environments agree on
everything that is free (`StandsFor.infer_shadowed`).
-/

namespace ArrowTyping

open Term

variable {x : String} {v r s : Term Span} {S T : Ty} {env env' : Env} {scope : Scope} {step : Step}

/-- The place of the root does not count for the type of a term. -/
theorem Term.infer_withNote_eq_ok (h : v.infer env = .ok T) (span : Span) :
    (v.withNote span).infer env = .ok T := by
  cases v with
  | bool _ value | number _ value => exact h
  | add _ left right => exact infer_add_eq_ok_iff.2 (infer_add_eq_ok_iff.1 h)
  | ifElse _ test yes no => exact infer_ifElse_eq_ok_iff.2 (infer_ifElse_eq_ok_iff.1 h)
  | var _ name => exact infer_var_eq_ok_iff.2 (infer_var_eq_ok_iff.1 h)
  | func _ params body => exact infer_func_eq_ok_iff.2 (infer_func_eq_ok_iff.1 h)
  | call _ callee args => exact infer_call_eq_ok_iff.2 (infer_call_eq_ok_iff.1 h)
  | seq _ first rest => exact infer_seq_eq_ok_iff.2 (infer_seq_eq_ok_iff.1 h)
  | const _ name value rest => exact infer_const_eq_ok_iff.2 (infer_const_eq_ok_iff.1 h)

/-! ## What holds on the way down -/

/-- In the term `r`, the term `v` checked in `env` can stand for the name `x` checked in `env'`.
What concerns `x` is required only if `r` uses it. -/
structure StandsFor (v : Term Span) (x : String) (T : Ty) (r : Term Span) (env env' : Env) :
    Prop where
  /-- The other free names mean the same in both environments. -/
  others : ∀ y ∈ r.freeNames, y ≠ x → env.lookup? y = env'.lookup? y
  /-- The name has the type `T` in the one environment. -/
  name : x ∈ r.freeNames → env'.lookup? x = some T
  /-- The term has this type in the other one. -/
  value : x ∈ r.freeNames → v.infer env = .ok T
  avoids : r.AvoidsCapture x v

namespace StandsFor

/-- Going down to a child for which the node binds nothing. -/
theorem child (h : StandsFor v x T r env env') (step : Step) (hchild : r.child? step = some s)
    (hnode : ∀ y, r.binds? step y = none) : StandsFor v x T s env env' where
  others y hy hne := h.others y (mem_freeNames_of_child hchild (hnode y) hy) hne
  name hx := h.name (mem_freeNames_of_child hchild (hnode x) hx)
  value hx := h.value (mem_freeNames_of_child hchild (hnode x) hx)
  avoids := h.avoids.child hchild (hnode x)

/-- Going down to a child that the node puts a scope around in which `x` is not bound. -/
theorem extend (h : StandsFor v x T r env env') (hchild : r.child? step = some s)
    (hscope : r.scopeBelow? step S = some scope) (hx : x ∉ scope.names) :
    StandsFor v x T s (env.extend scope) (env'.extend scope) := by
  have hnode : ∀ y, r.binds? step y = none ↔ y ∉ scope.names :=
    fun y => binds?_eq_none_iff_of_scopeBelow? hscope
  have hx' : r.binds? step x = none := (hnode x).2 hx
  refine ⟨?_, ?_, ?_, h.avoids.child hchild hx'⟩
  · intro y hy hne
    refine Env.lookup?_extend_congr fun hbound => ?_
    exact h.others y (mem_freeNames_of_child hchild ((hnode y).2 hbound) hy) hne
  · intro hfree
    rw [Env.lookup?_extend_of_not_mem hx]
    exact h.name (mem_freeNames_of_child hchild hx' hfree)
  · intro hfree
    -- The scope binds no free name of `v`, so `v` does not notice it.
    have hunused : ∀ y ∈ v.freeNames, y ∉ scope.names :=
      fun y hy => (hnode y).1 (h.avoids.binds?_eq_none hchild hx' hfree hy)
    rw [infer_extend_of_unused hunused]
    exact h.value (mem_freeNames_of_child hchild hx' hfree)

/-- A child that the node puts a scope around in which `x` is bound has the same result on both
sides as it is. -/
theorem infer_shadowed (h : StandsFor v x T r env env') (hchild : r.child? step = some s)
    (hscope : r.scopeBelow? step S = some scope) (hx : x ∈ scope.names) :
    s.infer (env.extend scope) = s.infer (env'.extend scope) := by
  refine infer_congr fun y hy => Env.lookup?_extend_congr fun hbound => ?_
  have hnode : r.binds? step y = none := (binds?_eq_none_iff_of_scopeBelow? hscope).2 hbound
  have hne : y ≠ x := fun heq => hbound (heq ▸ hx)
  exact h.others y (mem_freeNames_of_child hchild hnode hy) hne

end StandsFor

/-! ## Both runs -/

/-- Arguments in which something is substituted give the same result as the arguments themselves,
one by one. -/
theorem sameArguments_subst {args : List (Term Span)}
    (h : ∀ arg ∈ args, (arg.subst x v).infer env = arg.infer env') :
    List.Forall₂ (SameArgument env env') (args.map fun arg => arg.subst x v) args := by
  rw [List.forall₂_map_left_iff, List.forall₂_same]
  intro arg harg
  exact ⟨h arg harg, by rw [Term.span, note_subst]⟩

/-- Where `v` can stand for `x`, substituting it makes no difference. -/
theorem StandsFor.infer_subst (h : StandsFor v x T r env env') :
    (r.subst x v).infer env = r.infer env' := by
  induction r generalizing env env' with
  | bool span value | number span value => rfl
  | add span left right ihl ihr =>
    have hl := ihl (h.child .left rfl fun _ => rfl)
    have hr := ihr (h.child .right rfl fun _ => rfl)
    rw [subst, infer_add, infer_add, hl, hr, Term.span, Term.span, note_subst, note_subst]
  | ifElse span test yes no iht ihy ihn =>
    have ht := iht (h.child .test rfl fun _ => rfl)
    have hy := ihy (h.child .yes rfl fun _ => rfl)
    have hn := ihn (h.child .no rfl fun _ => rfl)
    rw [subst, infer_ifElse, infer_ifElse, ht, hy, hn, Term.span, Term.span, note_subst, note_subst]
  | var span name =>
    rw [subst]
    by_cases hname : name = x
    · subst hname
      have hfree : name ∈ (var span name).freeNames := by simp [freeNames]
      rw [if_pos rfl, infer_withNote_eq_ok (h.value hfree) span]
      exact (infer_var_eq_ok_iff.2 (h.name hfree)).symm
    · rw [if_neg hname]
      refine infer_congr fun y hy => h.others y hy ?_
      rw [freeNames, List.mem_singleton] at hy
      exact hy ▸ hname
  | func span params body ih =>
    have hscope : (func span params body).scopeBelow? .body default = some params := rfl
    rw [subst, infer_func, infer_func]
    by_cases hx : x ∈ params.names
    · rw [if_pos hx, h.infer_shadowed rfl hscope hx]
    · rw [if_neg hx, ih (h.extend rfl hscope hx)]
  | call span callee args ihc ihs =>
    have hc := ihc (h.child .callee rfl fun _ => rfl)
    have hargs : ∀ arg ∈ args, (arg.subst x v).infer env = arg.infer env' := by
      intro arg harg
      obtain ⟨index, hindex⟩ := List.mem_iff_getElem?.1 harg
      exact ihs arg harg (h.child (.arg index) hindex fun _ => rfl)
    have hplace : ∀ arity, arityPlace span arity (args.map fun arg => arg.subst x v) =
        arityPlace span arity args := by
      intro arity
      exact arityPlace_congr (by simp [Function.comp_def]) span arity
    rw [subst, substAll_eq_map, infer_call, infer_call, hc, Term.span, note_subst, List.length_map]
    refine bind_congr fun _ => bind_congr fun signature => ?_
    rw [hplace, inferArgs_congr (sameArguments_subst hargs)]
  | seq span first rest ihf ihr =>
    have hf := ihf (h.child .first rfl fun _ => rfl)
    have hr := ihr (h.child .rest rfl fun _ => rfl)
    rw [subst, infer_seq, infer_seq, hf, hr]
  | const span name value rest ihv ihr =>
    have hv := ihv (h.child .value rfl fun _ => rfl)
    rw [subst, infer_const, infer_const, hv]
    refine bind_congr fun S => ?_
    have hscope : (const span name value rest).scopeBelow? .rest S = some [⟨name, S⟩] := rfl
    by_cases hname : name = x
    · have hx : x ∈ Scope.names [⟨name, S⟩] := by simp [Scope.names, hname]
      rw [if_pos hname]
      exact h.infer_shadowed rfl hscope hx
    · have hx : x ∉ Scope.names [⟨name, S⟩] := by simp [Scope.names, Ne.symm hname]
      rw [if_neg hname]
      exact ihr (h.extend rfl hscope hx)

/-! ## The substitution lemma -/

/-- Substituting a term of type `T` for a name without capture gives the type or the error that the
name gives rise to when the environment binds it to `T`; and declaring the name with this value
gives it, too. -/
theorem infer_subst_eq_infer_extend {env : Env} {x : String} {v r : Term Span} {T : Ty}
    (hv : v.infer env = .ok T) (havoids : r.AvoidsCapture x v) :
    (r.subst x v).infer env = r.infer (env.extend [⟨x, T⟩]) ∧
    ∀ span, (const span x v r).infer env = (r.subst x v).infer env := by
  have hstands : StandsFor v x T r env (env.extend [⟨x, T⟩]) := by
    refine ⟨?_, ?_, fun _ => hv, havoids⟩
    · intro y _ hne
      exact (Env.lookup?_extend_of_not_mem (by simp [Scope.names, hne]) env).symm
    · intro _
      simp
  refine ⟨hstands.infer_subst, ?_⟩
  intro span
  rw [infer_const, hv, hstands.infer_subst]
  rfl

/-- The call `((x: boolean) => x)(x)`, where the argument is read from offset 30 of the file `f`. -/
def shadowingCall : Term Span :=
  .call .synthetic (.func .synthetic [⟨"x", .boolean⟩] (.var .synthetic "x"))
    [.var (.within "f" 30 31) "x"]

/-- The function `() => x`. -/
def thunk : Term Span := .func (.within "f" 8 15) [] (.var .synthetic "x")

/-- With `() => x` in the place of `x`, where the `x` inside it is a number outside, only the
argument of the call is replaced, and it is reported where the name stood. -/
theorem infer_subst_shadowingCall :
    (shadowingCall.subst "x" thunk).infer (.ofScopes [[⟨"x", .number⟩]]) =
      .error ⟨.wrongArgument 0 .boolean (.func [] .number), ⟨30, "f"⟩⟩ ∧
    (const .synthetic "x" thunk shadowingCall).infer (.ofScopes [[⟨"x", .number⟩]]) =
      .error ⟨.wrongArgument 0 .boolean (.func [] .number), ⟨30, "f"⟩⟩ := by
  have hthunk : thunk.infer (.ofScopes [[⟨"x", .number⟩]]) = .ok (.func [] .number) := rfl
  have havoids : shadowingCall.AvoidsCapture "x" thunk := by
    intro path hfree y hy
    -- The only free name of the function is the one that is replaced.
    obtain rfl : y = "x" := by simpa [thunk, freeNames, Scope.names] using hy
    exact hfree.2
  obtain ⟨hsubst, hconst⟩ := infer_subst_eq_infer_extend hthunk havoids
  have hsubst' := hsubst.trans (rfl : shadowingCall.infer _ =
    .error ⟨.wrongArgument 0 .boolean (.func [] .number), ⟨30, "f"⟩⟩)
  exact ⟨hsubst', (hconst .synthetic).trans hsubst'⟩

end ArrowTyping
