import ArrowTyping.Proofs.Typing.Inversion
import ArrowTyping.Term.Path
import Mathlib.Data.List.Forall2

set_option autoImplicit false

/-!
# The checked tree

A successful check gives back the term that it was given, with a type on every node.  Two things
make the tree worth having.  Forgetting the types leads back to the term, node for node
(`erase_of_check`).  And each subterm of the tree is the result of checking the subterm of the
term at the same place, alone, in the environment that the tree itself shows for that place
(`exists_subterm_of_check`): the types of the parameters above it, and for each constant above it
the type that stands on the constant's value.

Both rest on one lemma for each kind of node, which says from which checked children the node is
put together (`check_add_eq_ok_iff` and so on).
-/

namespace ArrowTyping.Term

/-! ## Other notes on the same tree -/

section Map

variable {α β : Type} (f : α → β) (note : α)

@[simp] theorem map_bool (value : Bool) : (bool note value).map f = .bool (f note) value := rfl

@[simp] theorem map_number (value : Float) :
    (number note value).map f = .number (f note) value := rfl

@[simp] theorem map_add (left right : Term α) :
    (add note left right).map f = .add (f note) (left.map f) (right.map f) := rfl

@[simp] theorem map_ifElse (test yes no : Term α) :
    (ifElse note test yes no).map f = .ifElse (f note) (test.map f) (yes.map f) (no.map f) := rfl

@[simp] theorem map_var (name : String) : (var note name).map f = .var (f note) name := rfl

@[simp] theorem map_func (params : Scope) (body : Term α) :
    (func note params body).map f = .func (f note) params (body.map f) := by
  simp [map, relabel]

@[simp] theorem map_call (callee : Term α) (args : List (Term α)) :
    (call note callee args).map f = .call (f note) (callee.map f) (args.map (map f)) := by
  have hargs : relabelAll f id id args = args.map (map f) := relabelAll_eq_map f id id args
  rw [← hargs]
  rfl

@[simp] theorem map_seq (first rest : Term α) :
    (seq note first rest).map f = .seq (f note) (first.map f) (rest.map f) := rfl

@[simp] theorem map_const (name : String) (value rest : Term α) :
    (const note name value rest).map f = .const (f note) name (value.map f) (rest.map f) := rfl

end Map

/-! ## From which checked children a node is put together -/

section Nodes

variable {env : Env} {span : Span} {y : Term Typed}

/-- The checked trees are those of the terms, one by one. -/
abbrev CheckedAs (env : Env) : List (Term Span) → List (Term Typed) → Prop :=
  List.Forall₂ fun t checked => t.check env = .ok checked

/-- Arguments that are as many as the parameters pass when each can be checked and the types come
out as the parameters. -/
theorem checkArgs_eq_ok_iff {params : List Ty} {args : List (Term Span)}
    {checked : List (Term Typed)} (index : Nat) (hlength : args.length = params.length) :
    checkArgs env index params args = .ok checked ↔
      CheckedAs env args checked ∧ checked.map ty = params := by
  induction args generalizing index params checked with
  | nil =>
    obtain rfl : params = [] := List.length_eq_zero_iff.1 hlength.symm
    have hnil : checkArgs env index [] [] = .ok [] := rfl
    rw [hnil, Except.ok.injEq]
    constructor
    · intro h
      subst h
      exact ⟨.nil, rfl⟩
    · intro h
      exact (List.forall₂_nil_left_iff.1 h.1).symm
  | cons arg args ih =>
    cases params with
    | nil => simp at hlength
    | cons param params =>
      have hrest : args.length = params.length := by simpa using hlength
      simp only [checkArgs, bind_eq_ok_iff, Unique.exists_iff, PUnit.default_eq_unit,
        Rule.argument_eq_ok_iff, pure_eq_ok_iff, ih _ hrest]
      constructor
      · intro h
        obtain ⟨arg', harg, rfl, args', ⟨hargs, rfl⟩, rfl⟩ := h
        exact ⟨.cons harg hargs, rfl⟩
      · intro h
        obtain ⟨hchecked, htypes⟩ := h
        obtain ⟨arg', args', harg, hargs, rfl⟩ := List.forall₂_cons_left_iff.1 hchecked
        obtain ⟨hty, htys⟩ := List.cons.inj htypes
        exact ⟨arg', harg, hty, args', ⟨hargs, htys⟩, rfl⟩

theorem check_add_eq_ok_iff {left right : Term Span} :
    (add span left right).check env = .ok y ↔
      ∃ left', left.check env = .ok left' ∧ left'.ty = .number ∧
        ∃ right', right.check env = .ok right' ∧ right'.ty = .number ∧
          y = .add ⟨span, .number⟩ left' right' := by
  simp only [check, bind_eq_ok_iff, Unique.exists_iff, PUnit.default_eq_unit,
    Rule.operand_eq_ok_iff, pure_eq_ok_iff]

theorem check_ifElse_eq_ok_iff {test yes no : Term Span} :
    (ifElse span test yes no).check env = .ok y ↔
      ∃ test', test.check env = .ok test' ∧ test'.ty = .boolean ∧
        ∃ yes', yes.check env = .ok yes' ∧ ∃ no', no.check env = .ok no' ∧ yes'.ty = no'.ty ∧
          y = .ifElse ⟨span, yes'.ty⟩ test' yes' no' := by
  simp only [check, bind_eq_ok_iff, Unique.exists_iff, PUnit.default_eq_unit, Rule.test_eq_ok_iff,
    Rule.branches_eq_ok_iff, pure_eq_ok_iff]

theorem check_var_eq_ok_iff {name : String} :
    (var span name).check env = .ok y ↔
      ∃ T, env.lookup? name = some T ∧ y = .var ⟨span, T⟩ name := by
  simp only [check, bind_eq_ok_iff, Env.fetch_eq_ok_iff, pure_eq_ok_iff]

theorem check_func_eq_ok_iff {params : Scope} {body : Term Span} :
    (func span params body).check env = .ok y ↔
      ∃ body', body.check (env.extend params) = .ok body' ∧
        y = .func ⟨span, .func params.types body'.ty⟩ params body' := by
  simp only [check, bind_eq_ok_iff, pure_eq_ok_iff]

theorem check_call_eq_ok_iff {callee : Term Span} {args : List (Term Span)} :
    (call span callee args).check env = .ok y ↔
      ∃ callee' args' ret, callee.check env = .ok callee' ∧
        callee'.ty = .func (args'.map ty) ret ∧ CheckedAs env args args' ∧
        y = .call ⟨span, ret⟩ callee' args' := by
  simp only [check, bind_eq_ok_iff, Unique.exists_iff, PUnit.default_eq_unit, exists_signature_iff,
    Rule.callee_eq_ok_iff, Rule.arity_eq_ok_iff, pure_eq_ok_iff, Signature.toTy, Signature.arity]
  constructor
  · intro h
    obtain ⟨callee', hcallee, params, ret, hc, harity, args', hargs, hy⟩ := h
    obtain ⟨hchecked, rfl⟩ := (checkArgs_eq_ok_iff 0 harity).1 hargs
    exact ⟨callee', args', ret, hcallee, hc, hchecked, hy⟩
  · intro h
    obtain ⟨callee', args', ret, hcallee, hc, hchecked, hy⟩ := h
    have harity : args.length = (args'.map ty).length := by
      rw [List.length_map, hchecked.length_eq]
    have hargs : checkArgs env 0 (args'.map ty) args = .ok args' :=
      (checkArgs_eq_ok_iff 0 harity).2 ⟨hchecked, rfl⟩
    exact ⟨callee', hcallee, _, ret, hc, harity, args', hargs, hy⟩

theorem check_seq_eq_ok_iff {first rest : Term Span} :
    (seq span first rest).check env = .ok y ↔
      ∃ first', first.check env = .ok first' ∧ ∃ rest', rest.check env = .ok rest' ∧
        y = .seq ⟨span, rest'.ty⟩ first' rest' := by
  simp only [check, bind_eq_ok_iff, pure_eq_ok_iff]

theorem check_const_eq_ok_iff {name : String} {value rest : Term Span} :
    (const span name value rest).check env = .ok y ↔
      ∃ value', value.check env = .ok value' ∧
        ∃ rest', rest.check (env.extend [⟨name, value'.ty⟩]) = .ok rest' ∧
          y = .const ⟨span, rest'.ty⟩ name value' rest' := by
  simp only [check, bind_eq_ok_iff, pure_eq_ok_iff]

end Nodes

/-! ## Forgetting the types -/

section Erase

variable {env : Env} {t : Term Span} {y : Term Typed}

/-- Arguments that are all given back by forgetting types are given back as a list. -/
theorem map_erase_of_checkedAs {args : List (Term Span)} {args' : List (Term Typed)}
    (hchecked : CheckedAs env args args')
    (ih : ∀ arg ∈ args, ∀ arg', arg.check env = .ok arg' → arg'.erase = arg) :
    args'.map erase = args := by
  induction hchecked with
  | nil => rfl
  | @cons arg arg' args args' harg _ ihs =>
    have hfirst : arg'.erase = arg := ih arg List.mem_cons_self arg' harg
    have hothers : args'.map erase = args :=
      ihs fun a ha => ih a (List.mem_cons_of_mem arg ha)
    rw [List.map_cons, hfirst, hothers]

/-- A checked tree without its types is the term that was checked. -/
theorem erase_of_check (h : t.check env = .ok y) : y.erase = t := by
  induction t generalizing env y with
  | bool span value =>
    cases h
    rfl
  | number span value =>
    cases h
    rfl
  | add span left right ihl ihr =>
    obtain ⟨left', hleft, -, right', hright, -, rfl⟩ := check_add_eq_ok_iff.1 h
    rw [erase, map_add, ← erase, ← erase, ihl hleft, ihr hright]
  | ifElse span test yes no iht ihy ihn =>
    obtain ⟨test', htest, -, yes', hyes, no', hno, -, rfl⟩ := check_ifElse_eq_ok_iff.1 h
    rw [erase, map_ifElse, ← erase, ← erase, ← erase, iht htest, ihy hyes, ihn hno]
  | var span name =>
    obtain ⟨T, -, rfl⟩ := check_var_eq_ok_iff.1 h
    rfl
  | func span params body ih =>
    obtain ⟨body', hbody, rfl⟩ := check_func_eq_ok_iff.1 h
    rw [erase, map_func, ← erase, ih hbody]
  | call span callee args ihc ihs =>
    obtain ⟨callee', args', ret, hcallee, -, hargs, rfl⟩ := check_call_eq_ok_iff.1 h
    have hmap : args'.map erase = args :=
      map_erase_of_checkedAs hargs fun arg harg arg' h' => ihs arg harg h'
    rw [erase, map_call, ← erase, ihc hcallee]
    exact congrArg _ hmap
  | seq span first rest ihf ihr =>
    obtain ⟨first', hfirst, rest', hrest, rfl⟩ := check_seq_eq_ok_iff.1 h
    rw [erase, map_seq, ← erase, ← erase, ihf hfirst, ihr hrest]
  | const span name value rest ihv ihr =>
    obtain ⟨value', hvalue, rest', hrest, rfl⟩ := check_const_eq_ok_iff.1 h
    rw [erase, map_const, ← erase, ← erase, ihv hvalue, ihr hrest]

end Erase

/-! ## Types that nodes pass on -/

/-- The type that stands on a checked node is the one that the node has by its kind. -/
theorem delegatedTy_of_check {env : Env} {t : Term Span} {y : Term Typed}
    (h : t.check env = .ok y) : y.delegatedTy = y.ty := by
  induction t generalizing env y with
  | bool span value | number span value =>
    cases h
    rfl
  | add span left right _ _ =>
    obtain ⟨_, _, -, _, _, -, rfl⟩ := check_add_eq_ok_iff.1 h
    rfl
  | ifElse span test yes no _ _ _ =>
    obtain ⟨_, _, -, _, _, _, _, -, rfl⟩ := check_ifElse_eq_ok_iff.1 h
    rfl
  | var span name =>
    obtain ⟨T, -, rfl⟩ := check_var_eq_ok_iff.1 h
    rfl
  | func span params body _ =>
    obtain ⟨body', -, rfl⟩ := check_func_eq_ok_iff.1 h
    rfl
  | call span callee args _ _ =>
    obtain ⟨_, _, _, _, -, -, rfl⟩ := check_call_eq_ok_iff.1 h
    rfl
  | seq span first rest _ ihr =>
    obtain ⟨_, _, rest', hrest, rfl⟩ := check_seq_eq_ok_iff.1 h
    rw [delegatedTy]
    exact ihr hrest
  | const span name value rest _ ihr =>
    obtain ⟨_, _, rest', hrest, rfl⟩ := check_const_eq_ok_iff.1 h
    rw [delegatedTy]
    exact ihr hrest

/-! ## Every node has its own result -/

section Subterms

variable {env : Env} {t s : Term Span} {y : Term Typed}

/-- Trees that were checked one by one can be found again by their number. -/
theorem exists_getElem?_of_checkedAs {args : List (Term Span)} {args' : List (Term Typed)}
    (hchecked : CheckedAs env args args') {index : Nat} {arg : Term Span}
    (harg : args[index]? = some arg) :
    ∃ arg', args'[index]? = some arg' ∧ arg.check env = .ok arg' := by
  induction hchecked generalizing index with
  | nil => simp at harg
  | @cons first first' _ _ hfirst _ ih =>
    cases index with
    | zero =>
      obtain rfl : first = arg := by simpa using harg
      exact ⟨first', rfl, hfirst⟩
    | succ index => exact ih (by simpa using harg)

/-- Each child of a checked node is the result of checking that child, in the environment that the
checked node shows for it. -/
theorem exists_child_of_check {step : Step} (h : t.check env = .ok y)
    (hchild : t.child? step = some s) :
    ∃ s', y.child? step = some s' ∧ s.check (y.envBelow env step) = .ok s' := by
  cases t with
  | bool span value | number span value | var span name => cases step <;> cases hchild
  | add span left right =>
    obtain ⟨left', hleft, -, right', hright, -, rfl⟩ := check_add_eq_ok_iff.1 h
    cases step with
    | left =>
      cases hchild
      exact ⟨left', rfl, hleft⟩
    | right =>
      cases hchild
      exact ⟨right', rfl, hright⟩
    | _ => cases hchild
  | ifElse span test yes no =>
    obtain ⟨test', htest, -, yes', hyes, no', hno, -, rfl⟩ := check_ifElse_eq_ok_iff.1 h
    cases step with
    | test =>
      cases hchild
      exact ⟨test', rfl, htest⟩
    | yes =>
      cases hchild
      exact ⟨yes', rfl, hyes⟩
    | no =>
      cases hchild
      exact ⟨no', rfl, hno⟩
    | _ => cases hchild
  | func span params body =>
    obtain ⟨body', hbody, rfl⟩ := check_func_eq_ok_iff.1 h
    cases step with
    | body =>
      cases hchild
      exact ⟨body', rfl, hbody⟩
    | _ => cases hchild
  | call span callee args =>
    obtain ⟨callee', args', ret, hcallee, -, hargs, rfl⟩ := check_call_eq_ok_iff.1 h
    cases step with
    | callee =>
      cases hchild
      exact ⟨callee', rfl, hcallee⟩
    | arg index => exact exists_getElem?_of_checkedAs hargs hchild
    | _ => cases hchild
  | seq span first rest =>
    obtain ⟨first', hfirst, rest', hrest, rfl⟩ := check_seq_eq_ok_iff.1 h
    cases step with
    | first =>
      cases hchild
      exact ⟨first', rfl, hfirst⟩
    | rest =>
      cases hchild
      exact ⟨rest', rfl, hrest⟩
    | _ => cases hchild
  | const span name value rest =>
    obtain ⟨value', hvalue, rest', hrest, rfl⟩ := check_const_eq_ok_iff.1 h
    cases step with
    | value =>
      cases hchild
      exact ⟨value', rfl, hvalue⟩
    | rest =>
      cases hchild
      exact ⟨rest', rfl, hrest⟩
    | _ => cases hchild

theorem envAt_cons_of_child {step : Step} {path : Path} {child : Term Typed}
    (h : y.child? step = some child) :
    y.envAt env (step :: path) = child.envAt (y.envBelow env step) path := by
  rw [envAt, h]

/-- The subterm of a checked tree at a path is the result of checking the subterm of the term at
this path, alone, in the environment that the tree shows for this place. -/
theorem exists_subterm_of_check {path : Path} (h : t.check env = .ok y)
    (hs : t.subterm? path = some s) :
    ∃ s', y.subterm? path = some s' ∧ s.check (y.envAt env path) = .ok s' := by
  -- One step down a checked tree is a checked tree again, in the environment below that step.
  induction path generalizing env t y with
  | nil =>
    obtain rfl : t = s := by simpa using hs
    exact ⟨y, subterm?_nil y, by rw [envAt]; exact h⟩
  | cons step path ih =>
    rw [subterm?_cons, Option.bind_eq_some_iff] at hs
    obtain ⟨child, hchild, hs⟩ := hs
    obtain ⟨child', hchild', hcheck⟩ := exists_child_of_check h hchild
    obtain ⟨s', hs', hresult⟩ := ih hcheck hs
    refine ⟨s', ?_, ?_⟩
    · rw [subterm?_cons, hchild', Option.bind_some, hs']
    · rw [envAt_cons_of_child hchild']
      exact hresult

end Subterms

/-! ## The tree as a whole -/

/-- A successful check gives back its term with a type on every node, and the node at each path is
what the check of the subterm at this path gives.  Its type is the one that is inferred for the
subterm there, and the one that a node of its kind passes on. -/
theorem check_annotates_every_subterm {env : Env} {t : Term Span} {y : Term Typed}
    (h : t.check env = .ok y) :
    y.erase = t ∧ ∀ (path : Path) (s : Term Span), t.subterm? path = some s →
      ∃ s', y.subterm? path = some s' ∧ s.check (y.envAt env path) = .ok s' ∧
        s.infer (y.envAt env path) = .ok s'.ty ∧ s'.delegatedTy = s'.ty := by
  refine ⟨erase_of_check h, ?_⟩
  intro path s hs
  obtain ⟨s', hs', hcheck⟩ := exists_subterm_of_check h hs
  have htype : s.infer (y.envAt env path) = .ok s'.ty := infer_eq_ok_iff.2 ⟨s', hcheck, rfl⟩
  exact ⟨s', hs', hcheck, htype, delegatedTy_of_check hcheck⟩

/-- The program `const x = true; ((x: boolean, x: number) => x)(x, 1)`: inside the function the
second parameter overrides the first one, and the argument `x` is the constant. -/
def overridingProgram : Term Span :=
  .const .synthetic "x" (.bool .synthetic true)
    (.call .synthetic
      (.func .synthetic [⟨"x", .boolean⟩, ⟨"x", .number⟩] (.var .synthetic "x"))
      [.var .synthetic "x", .number .synthetic 1])

/-- Its checked tree has the type of the second parameter on the `x` inside the function and that of
the constant on the argument `x`. -/
theorem check_annotates_overriding_program :
    ∃ y, overridingProgram.check .empty = .ok y ∧
      y.subterm? [.rest, .callee, .body] = some (.var ⟨.synthetic, .number⟩ "x") ∧
      y.subterm? [.rest, .arg 0] = some (.var ⟨.synthetic, .boolean⟩ "x") ∧
      y.erase = overridingProgram ∧
      ∀ (path : Path) (s : Term Span), overridingProgram.subterm? path = some s →
        ∃ s', y.subterm? path = some s' ∧ s.check (y.envAt .empty path) = .ok s' ∧
          s.infer (y.envAt .empty path) = .ok s'.ty ∧ s'.delegatedTy = s'.ty :=
  ⟨_, rfl, rfl, rfl, check_annotates_every_subterm rfl⟩

end ArrowTyping.Term
