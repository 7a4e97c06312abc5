import ArrowTyping.Proofs.Term.Binders
import ArrowTyping.Proofs.Typing.Inversion

set_option autoImplicit false

/-!
# Two runs side by side

Many statements about checking compare two runs: of two terms, or in two environments, or both.
`Coupled` says what two results have in common.  Both are values that are related, or both are the
same violation at places that are related; or the first run misses a name that the second one has
gained, and then nothing is known of the second run.  Checking is a row of steps, and what is
coupled in one step is coupled in the steps after it (`Coupled.bind`).

A `Coupling` is a relation between terms in environments that is kept on the way down: related terms
are alike, so that the two runs take the same steps, and their children are related in the
environments that the two nodes put them in.  Related terms have coupled checks (`Coupling.check`).
This is the only place where two checks are followed through all kinds of nodes; a statement about
two checks needs a coupling and no induction of its own.

Statements about types alone compare runs of `infer`.  When the results are to be equal,
`bind_congr_of_ok` compares the steps after the first one only where the first one goes well, and
a call does not look at an argument beyond its result and where it starts (`inferArgs_congr`).
-/

namespace ArrowTyping

open Term

/-! ## Coupled results -/

section Results

variable {α α' β β' : Type} {gained : String → Prop} {P : Position → Position → Prop}
  {R R' : α → α' → Prop} {S : β → β' → Prop} {r : Except TypeError α} {r' : Except TypeError α'}

/-- What two results have in common. -/
inductive Coupled (gained : String → Prop) (P : Position → Position → Prop) (R : α → α' → Prop) :
    Except TypeError α → Except TypeError α' → Prop where
  /-- Both are values, related by `R`. -/
  | ok {a a'} (related : R a a') : Coupled gained P R (.ok a) (.ok a')
  /-- Both are errors with the same violation, at places that are related by `P`. -/
  | error {violation p p'} (places : P p p') :
    Coupled gained P R (.error ⟨violation, p⟩) (.error ⟨violation, p'⟩)
  /-- The first one misses a name that is gained. -/
  | cured {x p r'} (hgained : gained x) : Coupled gained P R (.error ⟨.unbound x, p⟩) r'

namespace Coupled

theorem mono (h : Coupled gained P R r r') (hsub : ∀ a a', R a a' → R' a a') :
    Coupled gained P R' r r' := by
  cases h with
  | ok related => exact .ok (hsub _ _ related)
  | error places => exact .error places
  | cured hgained => exact .cured hgained

/-- Two rows of steps are coupled when their first steps are and what follows is on related
values. -/
theorem bind {f : α → Except TypeError β} {f' : α' → Except TypeError β'}
    (h : Coupled gained P R r r') (hf : ∀ a a', R a a' → Coupled gained P S (f a) (f' a')) :
    Coupled gained P S (r >>= f) (r' >>= f') := by
  cases h with
  | ok related => exact hf _ _ related
  | error places => exact .error places
  | cured hgained => exact .cured hgained

/-- First steps that find the same. -/
theorem bind_same {x x' : Except TypeError α} {f : α → Except TypeError β}
    {f' : α → Except TypeError β'} (h : Coupled gained P Eq x x')
    (hf : ∀ a, Coupled gained P S (f a) (f' a)) : Coupled gained P S (x >>= f) (x' >>= f') := by
  refine h.bind fun a a' heq => ?_
  subst heq
  exact hf a

/-- If nothing is gained, both runs go well or both fail. -/
theorem error_or_ok (h : Coupled gained P R r r') (hnone : ∀ x, ¬ gained x) :
    (∃ violation p p', r = .error ⟨violation, p⟩ ∧ r' = .error ⟨violation, p'⟩ ∧ P p p') ∨
    ∃ a a', r = .ok a ∧ r' = .ok a' ∧ R a a' := by
  cases h with
  | ok related => exact .inr ⟨_, _, rfl, rfl, related⟩
  | error places => exact .inl ⟨_, _, _, rfl, rfl, places⟩
  | cured hgained => exact absurd hgained (hnone _)

/-! ### Equal values at equal places -/

variable {x x' : Except TypeError α} {a : α} {e : TypeError}

/-- A value is not cured. -/
theorem eq_of_ok (h : Coupled gained Eq Eq x x') (hx : x = .ok a) : x' = .ok a := by
  cases h with
  | ok related => rw [← related, hx]
  | error places => cases hx
  | cured hgained => cases hx

/-- An error is not cured unless it misses a name that is gained. -/
theorem eq_of_error (h : Coupled gained Eq Eq x x') (hx : x = .error e)
    (hkept : ∀ y, e.violation = .unbound y → ¬ gained y) : x' = .error e := by
  cases h with
  | ok related => cases hx
  | error places => rw [← places, hx]
  | cured hgained =>
    cases hx
    exact absurd hgained (hkept _ rfl)

end Coupled

end Results

/-! ## Coupled steps

A rule is told a place only to report it. -/

section Steps

variable {gained : String → Prop} {P : Position → Position → Prop} {p p' : Position}

theorem Rule.coupled_require (h : P p p') (holds : Bool) (violation : Violation) :
    Coupled gained P Eq (require holds violation p) (require holds violation p') := by
  cases holds with
  | true => exact .ok rfl
  | false => exact .error h

theorem Rule.coupled_callee (h : P p p') (received : Ty) :
    Coupled gained P Eq (callee received p) (callee received p') := by
  unfold callee
  cases received.signature? with
  | some signature => exact .ok rfl
  | none => exact .error h

/-- Two names are looked up with coupled results if the second one has the type of the first one,
and if, when the first one is not bound, it is gained or both are the same unbound name. -/
theorem Env.coupled_fetch {env env' : Env} {x x' : String} (h : P p p')
    (kept : ∀ T, env.lookup? x = some T → env'.lookup? x' = some T)
    (lost : env.lookup? x = none → gained x ∨ (x = x' ∧ env'.lookup? x' = none)) :
    Coupled gained P Eq (env.fetch x p) (env'.fetch x' p') := by
  cases hlookup : env.lookup? x with
  | some T =>
    rw [fetch_eq_ok_iff.2 hlookup, fetch_eq_ok_iff.2 (kept T hlookup)]
    exact .ok rfl
  | none =>
    rw [fetch_eq_error_iff.2 ⟨hlookup, rfl⟩]
    rcases lost hlookup with hgained | ⟨rfl, hlookup'⟩
    · exact .cured hgained
    · rw [fetch_eq_error_iff.2 ⟨hlookup', rfl⟩]
      exact .error h

/-- Calls report a wrong number of arguments at related places if their ends and the starts of their
arguments are related. -/
theorem Term.arityPlace_related {call call' : Span} {args args' : List (Term Span)}
    (hstop : P call.stop call'.stop)
    (hargs : List.Forall₂ (fun arg arg' => P arg.span.start arg'.span.start) args args')
    (arity : Nat) : P (arityPlace call arity args) (arityPlace call' arity args') := by
  induction hargs generalizing arity with
  | nil => exact hstop
  | cons hstart _ ih =>
    cases arity with
    | zero => exact hstart
    | succ arity => exact ih arity

end Steps

/-! ## Couplings -/

/-- The environment in a child: the scope that the node puts around the child goes inside, if there
is one. -/
def Env.enter (env : Env) : Option Scope → Env
  | some scope => env.extend scope
  | none => env

/-- A relation between two terms, each in its environment, that is kept on the way down and couples
the checks of the terms: `f`, `g` and `h` forget what the terms may differ in, `gained` are the
names that only the second environment may bind, and `P` relates the places. -/
structure Coupling {β : Type} (f : Span → β) (g : String → String) (h : Float → Float)
    (gained : String → Prop) (P : Position → Position → Prop)
    (Rel : Env → Env → Term Span → Term Span → Prop) : Prop where
  /-- The terms differ only in what is forgotten. -/
  alike {env env' t t'} (rel : Rel env env' t t') : Alike f g h t t'
  /-- They start at related places. -/
  start {env env' t t'} (rel : Rel env env' t t') : P t.span.start t'.span.start
  /-- They end at related places. -/
  stop {env env' t t'} (rel : Rel env env' t t') : P t.span.stop t'.span.stop
  /-- A name that is bound has its type in the second environment too. -/
  kept {env env' span span' x x'} (rel : Rel env env' (.var span x) (.var span' x')) {T}
    (bound : env.lookup? x = some T) : env'.lookup? x' = some T
  /-- A name that is not bound is gained, or it is not bound in the second environment either. -/
  lost {env env' span span' x x'} (rel : Rel env env' (.var span x) (.var span' x'))
    (unbound : env.lookup? x = none) : gained x ∨ (x = x' ∧ env'.lookup? x' = none)
  /-- Corresponding children are related in the environments that they are checked in. -/
  child {env env' t t' s s'} (rel : Rel env env' t t') (step : Step)
    (hs : t.child? step = some s) (hs' : t'.child? step = some s') (T : Ty) :
    Rel (env.enter (t.scopeBelow? step T)) (env'.enter (t'.scopeBelow? step T)) s s'

section Checked

variable {β : Type} {f : Span → β} {g : String → String} {h : Float → Float}

/-- The checked trees have the same types and are alike apart from these. -/
abbrev Term.AlikeTyped (f : Span → β) (g : String → String) (h : Float → Float) :
    Term Typed → Term Typed → Prop :=
  Alike (fun note => (f note.span, note.ty)) g h

variable {y y' : Term Typed}

theorem Term.AlikeTyped.ty_eq (e : AlikeTyped f g h y y') : y.ty = y'.ty :=
  congrArg Prod.snd e.note_eq

/-- Corresponding nodes have the same type. -/
theorem Term.AlikeTyped.ty_subterm?_eq (e : AlikeTyped f g h y y') (path : Path) :
    (y.subterm? path).map ty = (y'.subterm? path).map ty := by
  have hpath : ((y.relabel (fun note => (f note.span, note.ty)) g h).subterm? path).map
      (fun s => s.note.2) =
        ((y'.relabel (fun note => (f note.span, note.ty)) g h).subterm? path).map
          fun s => s.note.2 := by
    rw [e]
  simpa [subterm?_relabel, Function.comp_def] using hpath

variable {gained : String → Prop} {P : Position → Position → Prop}
  {Rel : Env → Env → Term Span → Term Span → Prop} {env env' : Env} {t t' : Term Span}
  {args args' : List (Term Span)}

/-- Two arguments that start at related places and have coupled checks. -/
def Term.CoupledArgument (f : Span → β) (g : String → String) (h : Float → Float)
    (gained : String → Prop) (P : Position → Position → Prop) (env env' : Env)
    (arg arg' : Term Span) : Prop :=
  P arg.span.start arg'.span.start ∧
    Coupled gained P (AlikeTyped f g h) (arg.check env) (arg'.check env')

/-- The loops over two lists of arguments are coupled when the arguments are, one by one. -/
theorem Term.coupled_checkArgs
    (hargs : List.Forall₂ (CoupledArgument f g h gained P env env') args args') (index : Nat)
    (params : List Ty) :
    Coupled gained P (List.Forall₂ (AlikeTyped f g h)) (checkArgs env index params args)
      (checkArgs env' index params args') := by
  induction hargs generalizing index params with
  | nil => cases params <;> exact .ok .nil
  | cons harg _ ih =>
    cases params with
    | nil => exact .ok .nil
    | cons param params =>
      obtain ⟨hstart, hcheck⟩ := harg
      simp only [checkArgs]
      refine hcheck.bind fun y y' hy => ?_
      rw [hy.ty_eq]
      refine (Rule.coupled_require hstart _ _).bind_same fun _ => ?_
      exact (ih (index + 1) params).bind fun ys ys' hys => .ok (.cons hy hys)

/-- Terms that are related by a coupling have coupled checks. -/
theorem Coupling.check (c : Coupling f g h gained P Rel) (rel : Rel env env' t t') :
    Coupled gained P (AlikeTyped f g h) (t.check env) (t'.check env') := by
  -- The induction is on one of the terms; the other one has a node of the same kind everywhere.
  -- Where a node puts no scope around a child, any type will do for `child`.
  induction t generalizing t' env env' with
  | bool span value =>
    obtain ⟨span', rfl, hspan⟩ := exists_bool_of_alike (c.alike rel)
    exact .ok (by simp only [Alike, relabel, hspan])
  | number span value =>
    obtain ⟨span', value', rfl, hspan, hvalue⟩ := exists_number_of_alike (c.alike rel)
    exact .ok (by simp only [Alike, relabel, hspan, hvalue])
  | add span left right ihl ihr =>
    obtain ⟨span', left', right', rfl, hspan, -, -⟩ := exists_add_of_alike (c.alike rel)
    have hleft : Rel env env' left left' := c.child rel .left rfl rfl default
    have hright : Rel env env' right right' := c.child rel .right rfl rfl default
    simp only [Term.check]
    refine (ihl hleft).bind fun l l' hl => ?_
    rw [hl.ty_eq]
    refine (Rule.coupled_require (c.start hleft) _ _).bind_same fun _ => ?_
    refine (ihr hright).bind fun r r' hr => ?_
    rw [hr.ty_eq]
    refine (Rule.coupled_require (c.start hright) _ _).bind_same fun _ => .ok ?_
    simp only [Alike, relabel] at hl hr ⊢
    rw [hspan, hl, hr]
  | ifElse span test yes no iht ihy ihn =>
    obtain ⟨span', test', yes', no', rfl, hspan, -, -, -⟩ := exists_ifElse_of_alike (c.alike rel)
    have htest : Rel env env' test test' := c.child rel .test rfl rfl default
    have hyes : Rel env env' yes yes' := c.child rel .yes rfl rfl default
    have hno : Rel env env' no no' := c.child rel .no rfl rfl default
    simp only [Term.check]
    refine (iht htest).bind fun b b' hb => ?_
    rw [hb.ty_eq]
    refine (Rule.coupled_require (c.start htest) _ _).bind_same fun _ => ?_
    refine (ihy hyes).bind fun y y' hy => (ihn hno).bind fun n n' hn => ?_
    rw [hy.ty_eq, hn.ty_eq]
    refine (Rule.coupled_require (c.start hno) _ _).bind_same fun _ => .ok ?_
    simp only [Alike, relabel] at hb hy hn ⊢
    rw [hspan, hb, hy, hn]
  | var span name =>
    obtain ⟨span', name', rfl, hspan, hname⟩ := exists_var_of_alike (c.alike rel)
    simp only [Term.check]
    refine (Env.coupled_fetch (c.start rel) (fun _ => c.kept rel) (c.lost rel)).bind_same
      fun _ => .ok ?_
    simp only [Alike, relabel, hspan, hname]
  | func span params body ih =>
    obtain ⟨span', params', body', rfl, hspan, htypes, hparams, -⟩ :=
      exists_func_of_alike (c.alike rel)
    have hbody : Rel (env.extend params) (env'.extend params') body body' :=
      c.child rel .body rfl rfl default
    simp only [Term.check]
    refine (ih hbody).bind fun b b' hb => .ok ?_
    rw [hb.ty_eq, htypes]
    simp only [Alike, relabel] at hb ⊢
    rw [hspan, hparams, hb]
  | call span callee args ihc ihs =>
    obtain ⟨span', callee', args', rfl, hspan, -, hargs⟩ := exists_call_of_alike (c.alike rel)
    have hcallee : Rel env env' callee callee' := c.child rel .callee rfl rfl default
    have hchecks : List.Forall₂ (CoupledArgument f g h gained P env env') args args' := by
      refine List.forall₂_iff_get.2 ⟨hargs.length_eq, fun i hi hi' => ?_⟩
      have harg : Rel env env' (args.get ⟨i, hi⟩) (args'.get ⟨i, hi'⟩) :=
        c.child rel (.arg i) (List.getElem?_eq_getElem hi) (List.getElem?_eq_getElem hi') default
      exact ⟨c.start harg, ihs _ (List.get_mem args ⟨i, hi⟩) harg⟩
    have hplace : ∀ arity, P (arityPlace span arity args) (arityPlace span' arity args') :=
      arityPlace_related (c.stop rel) (hchecks.imp fun _ _ harg => harg.1)
    simp only [Term.check]
    refine (ihc hcallee).bind fun y y' hy => ?_
    rw [hy.ty_eq]
    refine (Rule.coupled_callee (c.start hcallee) _).bind_same fun signature => ?_
    rw [hargs.length_eq]
    refine (Rule.coupled_require (hplace _) _ _).bind_same fun _ => ?_
    refine (coupled_checkArgs hchecks 0 signature.params).bind fun ys ys' hys => .ok ?_
    have hmap := forall₂_alike_iff.1 hys
    simp only [Alike, relabel, relabelAll_eq_map] at hy ⊢
    rw [hspan, hy, hmap]
  | seq span first rest ihf ihr =>
    obtain ⟨span', first', rest', rfl, hspan, -, -⟩ := exists_seq_of_alike (c.alike rel)
    have hfirst : Rel env env' first first' := c.child rel .first rfl rfl default
    have hrest : Rel env env' rest rest' := c.child rel .rest rfl rfl default
    simp only [Term.check]
    refine (ihf hfirst).bind fun s s' hs => (ihr hrest).bind fun r r' hr => .ok ?_
    rw [hr.ty_eq]
    simp only [Alike, relabel] at hs hr ⊢
    rw [hspan, hs, hr]
  | const span name value rest ihv ihr =>
    obtain ⟨span', name', value', rest', rfl, hspan, hname, -, -⟩ :=
      exists_const_of_alike (c.alike rel)
    have hvalue : Rel env env' value value' := c.child rel .value rfl rfl default
    have hrest : ∀ T, Rel (env.extend [⟨name, T⟩]) (env'.extend [⟨name', T⟩]) rest rest' :=
      c.child rel .rest rfl rfl
    simp only [Term.check]
    refine (ihv hvalue).bind fun v v' hv => ?_
    rw [hv.ty_eq]
    refine (ihr (hrest v'.ty)).bind fun r r' hr => .ok ?_
    rw [hr.ty_eq]
    simp only [Alike, relabel] at hv hr ⊢
    rw [hspan, hname, hv, hr]

end Checked

/-! ## Equal results -/

/-- Two rows of steps that begin with the same step agree if they do so wherever this step goes
well. -/
theorem bind_congr_of_ok {α β : Type} {x : Except TypeError α} {f g : α → Except TypeError β}
    (h : ∀ a, x = .ok a → f a = g a) : (x >>= f) = (x >>= g) := by
  cases x with
  | error e => rfl
  | ok a => exact h a rfl

namespace Term

variable {env env' : Env} {args args' : List (Term Span)}

/-- The place at which a wrong number of arguments is reported depends only on where the arguments
start. -/
theorem arityPlace_congr (h : args.map (fun a => a.span.start) = args'.map (fun a => a.span.start))
    (call : Span) (arity : Nat) : arityPlace call arity args = arityPlace call arity args' := by
  have hstarts : List.Forall₂ Eq (args.map fun a => a.span.start)
      (args'.map fun a => a.span.start) := by
    rw [List.forall₂_eq_eq_eq]
    exact h
  rw [List.forall₂_map_left_iff, List.forall₂_map_right_iff] at hstarts
  exact arityPlace_related rfl hstarts arity

/-- The argument `arg` in one run and the argument `arg'` in the other have the same result and
start at the same place. -/
def SameArgument (env env' : Env) (arg arg' : Term Span) : Prop :=
  arg.infer env = arg'.infer env' ∧ arg.span.start = arg'.span.start

/-- The loop over the arguments gives the same result when the arguments do, one by one. -/
theorem inferArgs_congr (h : List.Forall₂ (SameArgument env env') args args') (index : Nat)
    (params : List Ty) : inferArgs env index params args = inferArgs env' index params args' := by
  induction h generalizing index params with
  | nil => cases params <;> rfl
  | @cons arg arg' args args' harg _ ih =>
    cases params with
    | nil => rfl
    | cons param params => rw [inferArgs, inferArgs, harg.1, harg.2, ih]

end Term

end ArrowTyping
