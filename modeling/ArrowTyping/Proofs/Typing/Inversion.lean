import ArrowTyping.Typing.FirstViolation
import Mathlib.Logic.Unique

set_option autoImplicit false

/-!
# What a result at a node says about its children

Checking a node is a row of steps, each of which may report an error, and an error ends the row.
So a node has a type exactly when all of its steps go well, and it reports an error exactly when
one step reports that error and all steps before it went well.  `bind_eq_ok_iff` and
`bind_eq_error_iff` say this of two steps in a row.

From them this module reads off, once for each kind of node, when the node has a given type
(`infer_add_eq_ok_iff` and so on) and when it reports a given error (`infer_add_eq_error_iff` and
so on).  The cases of an error stand in the order in which checking comes to them.  Arguments of
a call form a loop of their own: it is passed when every argument has the type of its parameter,
and otherwise it ends at the first argument that has not.

Nothing after this module opens the definition of `infer` again.
-/

namespace ArrowTyping

/-! ## Steps in a row -/

section Steps

variable {α β : Type} {x : Except TypeError α} {f : α → Except TypeError β}

/-- Two steps in a row go well when the first one does and the second one does with what the first
one found. -/
theorem bind_eq_ok_iff {b : β} : (x >>= f) = .ok b ↔ ∃ a, x = .ok a ∧ f a = .ok b := by
  cases x with
  | error e => simp [bind, Except.bind]
  | ok a => simp [bind, Except.bind]

/-- Two steps in a row report what the first one reports, or what the second one reports after the
first one went well. -/
theorem bind_eq_error_iff {e : TypeError} :
    (x >>= f) = .error e ↔ x = .error e ∨ ∃ a, x = .ok a ∧ f a = .error e := by
  cases x with
  | error e => simp [bind, Except.bind]
  | ok a => simp [bind, Except.bind]

theorem pure_eq_ok_iff {a b : α} : (pure a : Except TypeError α) = .ok b ↔ b = a := by
  simp [pure, Except.pure, eq_comm]

theorem pure_ne_error {a : α} {e : TypeError} : (pure a : Except TypeError α) ≠ .error e := nofun

theorem exists_signature_iff {p : Signature → Prop} :
    (∃ s, p s) ↔ ∃ params ret, p ⟨params, ret⟩ :=
  ⟨fun ⟨s, h⟩ => ⟨s.params, s.ret, h⟩, fun ⟨_, _, h⟩ => ⟨_, h⟩⟩

end Steps

/-! ## Arguments -/

section Arguments

variable {env : Env} {arg : Term Span} {args : List (Term Span)} {param : Ty} {params : List Ty}

theorem passes_nil_args : Passes env [] params := by
  intro i arg param harg
  simp at harg

theorem passes_nil_params : Passes env args [] := by
  intro i arg param _ hparam
  simp at hparam

/-- Arguments pass when the first one has its type and the others pass. -/
theorem passes_cons_iff :
    Passes env (arg :: args) (param :: params) ↔
      arg.infer env = .ok param ∧ Passes env args params := by
  constructor
  · intro h
    refine ⟨h 0 arg param rfl rfl, ?_⟩
    intro i a p ha hp
    exact h (i + 1) a p (by simpa using ha) (by simpa using hp)
  · intro h i a p ha hp
    obtain ⟨hfirst, hothers⟩ := h
    cases i with
    | zero =>
      simp only [List.getElem?_cons_zero, Option.some.injEq] at ha hp
      subst ha hp
      exact hfirst
    | succ i => exact hothers i a p (by simpa using ha) (by simpa using hp)

namespace Term

/-- The loop over the arguments is passed when every argument has the type of its parameter. -/
theorem inferArgs_eq_ok_iff (index : Nat) (params : List Ty) (args : List (Term Span)) :
    inferArgs env index params args = .ok () ↔ Passes env args params := by
  induction args generalizing index params with
  | nil => cases params <;> simp [inferArgs, passes_nil_args]
  | cons arg args ih =>
    cases params with
    | nil => simp [inferArgs, passes_nil_params]
    | cons param params =>
      simp only [inferArgs, bind_eq_ok_iff, Unique.exists_iff, PUnit.default_eq_unit,
        Rule.argument_eq_ok_iff, ih, passes_cons_iff]
      constructor
      · intro h
        obtain ⟨T, harg, rfl, hothers⟩ := h
        exact ⟨harg, hothers⟩
      · intro h
        obtain ⟨harg, hothers⟩ := h
        exact ⟨param, harg, rfl, hothers⟩

/-- The argument after those `before` it ends the loop, because it reports an error itself or has
another type than its parameter; `index` is the number of the first argument of the loop. -/
def StopsAt (env : Env) (index : Nat) (params : List Ty) (before : List (Term Span))
    (arg : Term Span) (e : TypeError) : Prop :=
  ∃ param, params[before.length]? = some param ∧ Passes env before params ∧
    (arg.infer env = .error e ∨
      ∃ T, arg.infer env = .ok T ∧ T ≠ param ∧
        e = ⟨.wrongArgument (index + before.length) param T, arg.span.start⟩)

theorem stopsAt_cons_iff {index : Nat} {first : Term Span} {before : List (Term Span)}
    {e : TypeError} :
    StopsAt env index (param :: params) (first :: before) arg e ↔
      first.infer env = .ok param ∧ StopsAt env (index + 1) params before arg e := by
  have hindex : index + (before.length + 1) = index + 1 + before.length := by omega
  simp only [StopsAt, List.length_cons, List.getElem?_cons_succ, passes_cons_iff, hindex]
  constructor
  · intro h
    obtain ⟨p, hp, ⟨hfirst, hbefore⟩, hstop⟩ := h
    exact ⟨hfirst, p, hp, hbefore, hstop⟩
  · intro h
    obtain ⟨hfirst, p, hp, hbefore, hstop⟩ := h
    exact ⟨p, hp, ⟨hfirst, hbefore⟩, hstop⟩

/-- The loop over the arguments reports an error when it ends at one of them with this error. -/
theorem inferArgs_eq_error_iff {e : TypeError} (index : Nat) (params : List Ty)
    (args : List (Term Span)) :
    inferArgs env index params args = .error e ↔
      ∃ before arg after, args = before ++ arg :: after ∧
        StopsAt env index params before arg e := by
  induction args generalizing index params with
  | nil => cases params <;> simp [inferArgs]
  | cons first args ih =>
    cases params with
    | nil => simp [inferArgs, StopsAt]
    | cons param params =>
      simp only [inferArgs, bind_eq_error_iff, Unique.exists_iff, PUnit.default_eq_unit,
        Rule.argument_eq_ok_iff, Rule.argument_eq_error_iff, ih]
      constructor
      · intro h
        rcases h with herr | ⟨T, hT, ⟨hne, he⟩ | ⟨rfl, before, arg, after, rfl, hstop⟩⟩
        · exact ⟨[], first, args, rfl, param, rfl, passes_nil_args, .inl herr⟩
        · exact ⟨[], first, args, rfl, param, rfl, passes_nil_args, .inr ⟨T, hT, hne, he⟩⟩
        · exact ⟨first :: before, arg, after, rfl, stopsAt_cons_iff.2 ⟨hT, hstop⟩⟩
      · intro h
        obtain ⟨before, arg, after, hargs, hstop⟩ := h
        cases before with
        | nil =>
          obtain ⟨rfl, rfl⟩ := List.cons.inj hargs
          obtain ⟨p, hp, -, herr | ⟨T, hT, hne, he⟩⟩ := hstop
          · exact .inl herr
          · simp only [List.length_nil, List.getElem?_cons_zero, Option.some.injEq] at hp
            subst hp
            exact .inr ⟨T, hT, .inl ⟨hne, he⟩⟩
        | cons b before =>
          obtain ⟨rfl, rfl⟩ := List.cons.inj hargs
          obtain ⟨hfirst, hstop⟩ := stopsAt_cons_iff.1 hstop
          exact .inr ⟨param, hfirst, .inr ⟨rfl, before, arg, after, rfl, hstop⟩⟩

end Term

end Arguments

namespace Term

variable {env : Env} {span : Span}

/-! ## When a node has a type -/

theorem infer_add_eq_ok_iff {left right : Term Span} {T : Ty} :
    (add span left right).infer env = .ok T ↔
      left.infer env = .ok .number ∧ right.infer env = .ok .number ∧ T = .number := by
  simp only [infer_add, bind_eq_ok_iff, Unique.exists_iff, PUnit.default_eq_unit,
    Rule.operand_eq_ok_iff, pure_eq_ok_iff]
  constructor
  · intro h
    obtain ⟨L, hleft, rfl, R, hright, rfl, rfl⟩ := h
    exact ⟨hleft, hright, rfl⟩
  · intro h
    obtain ⟨hleft, hright, rfl⟩ := h
    exact ⟨_, hleft, rfl, _, hright, rfl, rfl⟩

theorem infer_ifElse_eq_ok_iff {test yes no : Term Span} {T : Ty} :
    (ifElse span test yes no).infer env = .ok T ↔
      test.infer env = .ok .boolean ∧ yes.infer env = .ok T ∧ no.infer env = .ok T := by
  simp only [infer_ifElse, bind_eq_ok_iff, Unique.exists_iff, PUnit.default_eq_unit,
    Rule.test_eq_ok_iff, Rule.branches_eq_ok_iff, pure_eq_ok_iff]
  constructor
  · intro h
    obtain ⟨C, htest, rfl, Y, hyes, N, hno, rfl, rfl⟩ := h
    exact ⟨htest, hyes, hno⟩
  · intro h
    obtain ⟨htest, hyes, hno⟩ := h
    exact ⟨_, htest, rfl, T, hyes, T, hno, rfl, rfl⟩

theorem infer_var_eq_ok_iff {name : String} {T : Ty} :
    (var span name).infer env = .ok T ↔ env.lookup? name = some T := by
  rw [infer_var, Env.fetch_eq_ok_iff]

theorem infer_func_eq_ok_iff {params : Scope} {body : Term Span} {T : Ty} :
    (func span params body).infer env = .ok T ↔
      ∃ B, body.infer (env.extend params) = .ok B ∧ T = .func params.types B := by
  simp only [infer_func, bind_eq_ok_iff, pure_eq_ok_iff]

theorem infer_call_eq_ok_iff {callee : Term Span} {args : List (Term Span)} {T : Ty} :
    (call span callee args).infer env = .ok T ↔
      ∃ params, callee.infer env = .ok (.func params T) ∧ args.length = params.length ∧
        Passes env args params := by
  simp only [infer_call, bind_eq_ok_iff, Unique.exists_iff, PUnit.default_eq_unit,
    exists_signature_iff, Rule.callee_eq_ok_iff, Rule.arity_eq_ok_iff, inferArgs_eq_ok_iff,
    pure_eq_ok_iff, Signature.toTy, Signature.arity]
  constructor
  · intro h
    obtain ⟨C, hcallee, params, ret, rfl, harity, hargs, rfl⟩ := h
    exact ⟨params, hcallee, harity, hargs⟩
  · intro h
    obtain ⟨params, hcallee, harity, hargs⟩ := h
    exact ⟨_, hcallee, params, T, rfl, harity, hargs, rfl⟩

theorem infer_seq_eq_ok_iff {first rest : Term Span} {T : Ty} :
    (seq span first rest).infer env = .ok T ↔
      (∃ S, first.infer env = .ok S) ∧ rest.infer env = .ok T := by
  simp only [infer_seq, bind_eq_ok_iff, exists_and_right]

theorem infer_const_eq_ok_iff {name : String} {value rest : Term Span} {T : Ty} :
    (const span name value rest).infer env = .ok T ↔
      ∃ S, value.infer env = .ok S ∧ rest.infer (env.extend [⟨name, S⟩]) = .ok T := by
  simp only [infer_const, bind_eq_ok_iff]

/-! ## When a node reports an error -/

theorem infer_add_eq_error_iff {left right : Term Span} {e : TypeError} :
    (add span left right).infer env = .error e ↔
      left.infer env = .error e ∨
      (∃ L, left.infer env = .ok L ∧ L ≠ .number ∧
        e = ⟨.operandNotNumber .left L, left.span.start⟩) ∨
      (left.infer env = .ok .number ∧ right.infer env = .error e) ∨
      (left.infer env = .ok .number ∧ ∃ R, right.infer env = .ok R ∧ R ≠ .number ∧
        e = ⟨.operandNotNumber .right R, right.span.start⟩) := by
  simp only [infer_add, bind_eq_error_iff, Unique.exists_iff, PUnit.default_eq_unit,
    Rule.operand_eq_ok_iff, Rule.operand_eq_error_iff, pure_ne_error, and_false, or_false]
  constructor
  · intro h
    rcases h with hleft | ⟨L, hL, ⟨hne, he⟩ | ⟨rfl, hright | ⟨R, hR, hne, he⟩⟩⟩
    · exact .inl hleft
    · exact .inr (.inl ⟨L, hL, hne, he⟩)
    · exact .inr (.inr (.inl ⟨hL, hright⟩))
    · exact .inr (.inr (.inr ⟨hL, R, hR, hne, he⟩))
  · intro h
    rcases h with hleft | ⟨L, hL, hne, he⟩ | ⟨hL, hright⟩ | ⟨hL, R, hR, hne, he⟩
    · exact .inl hleft
    · exact .inr ⟨L, hL, .inl ⟨hne, he⟩⟩
    · exact .inr ⟨_, hL, .inr ⟨rfl, .inl hright⟩⟩
    · exact .inr ⟨_, hL, .inr ⟨rfl, .inr ⟨R, hR, hne, he⟩⟩⟩

theorem infer_ifElse_eq_error_iff {test yes no : Term Span} {e : TypeError} :
    (ifElse span test yes no).infer env = .error e ↔
      test.infer env = .error e ∨
      (∃ C, test.infer env = .ok C ∧ C ≠ .boolean ∧ e = ⟨.testNotBoolean C, test.span.start⟩) ∨
      (test.infer env = .ok .boolean ∧ yes.infer env = .error e) ∨
      (test.infer env = .ok .boolean ∧ ∃ Y, yes.infer env = .ok Y ∧ no.infer env = .error e) ∨
      (test.infer env = .ok .boolean ∧ ∃ Y, yes.infer env = .ok Y ∧ ∃ N, no.infer env = .ok N ∧
        Y ≠ N ∧ e = ⟨.branchesDiffer Y N, no.span.start⟩) := by
  simp only [infer_ifElse, bind_eq_error_iff, Unique.exists_iff, PUnit.default_eq_unit,
    Rule.test_eq_ok_iff, Rule.test_eq_error_iff, Rule.branches_eq_error_iff, pure_ne_error,
    and_false, or_false]
  constructor
  · intro h
    rcases h with htest | ⟨C, hC, ⟨hne, he⟩ | ⟨rfl, hyes | ⟨Y, hY, hno | ⟨N, hN, hne, he⟩⟩⟩⟩
    · exact .inl htest
    · exact .inr (.inl ⟨C, hC, hne, he⟩)
    · exact .inr (.inr (.inl ⟨hC, hyes⟩))
    · exact .inr (.inr (.inr (.inl ⟨hC, Y, hY, hno⟩)))
    · exact .inr (.inr (.inr (.inr ⟨hC, Y, hY, N, hN, hne, he⟩)))
  · intro h
    rcases h with
      htest | ⟨C, hC, hne, he⟩ | ⟨hC, hyes⟩ | ⟨hC, Y, hY, hno⟩ | ⟨hC, Y, hY, N, hN, hne, he⟩
    · exact .inl htest
    · exact .inr ⟨C, hC, .inl ⟨hne, he⟩⟩
    · exact .inr ⟨_, hC, .inr ⟨rfl, .inl hyes⟩⟩
    · exact .inr ⟨_, hC, .inr ⟨rfl, .inr ⟨Y, hY, .inl hno⟩⟩⟩
    · exact .inr ⟨_, hC, .inr ⟨rfl, .inr ⟨Y, hY, .inr ⟨N, hN, hne, he⟩⟩⟩⟩

theorem infer_var_eq_error_iff {name : String} {e : TypeError} :
    (var span name).infer env = .error e ↔
      env.lookup? name = none ∧ e = ⟨.unbound name, span.start⟩ := by
  rw [infer_var, Env.fetch_eq_error_iff]

theorem infer_func_eq_error_iff {params : Scope} {body : Term Span} {e : TypeError} :
    (func span params body).infer env = .error e ↔
      body.infer (env.extend params) = .error e := by
  simp only [infer_func, bind_eq_error_iff, pure_ne_error, and_false, exists_false, or_false]

/-- The number of arguments is compared before the first of them is looked at. -/
theorem infer_call_eq_error_iff {callee : Term Span} {args : List (Term Span)} {e : TypeError} :
    (call span callee args).infer env = .error e ↔
      callee.infer env = .error e ∨
      (∃ C, callee.infer env = .ok C ∧ (∀ params ret, C ≠ .func params ret) ∧
        e = ⟨.notCallable C, callee.span.start⟩) ∨
      (∃ params ret, callee.infer env = .ok (.func params ret) ∧ args.length ≠ params.length ∧
        e = ⟨.wrongArity params.length args.length, arityPlace span params.length args⟩) ∨
      (∃ params ret, callee.infer env = .ok (.func params ret) ∧ args.length = params.length ∧
        ∃ before arg after, args = before ++ arg :: after ∧ StopsAt env 0 params before arg e) := by
  simp only [infer_call, bind_eq_error_iff, Unique.exists_iff, PUnit.default_eq_unit,
    exists_signature_iff, Rule.callee_eq_ok_iff, Rule.callee_eq_error_iff, Rule.arity_eq_ok_iff,
    Rule.arity_eq_error_iff, inferArgs_eq_error_iff, pure_ne_error, and_false, or_false,
    Signature.toTy, Signature.arity]
  constructor
  · intro h
    rcases h with hcallee | ⟨C, hC, ⟨hne, he⟩ | ⟨params, ret, rfl, ⟨hne, he⟩ | ⟨harity, hargs⟩⟩⟩
    · exact .inl hcallee
    · exact .inr (.inl ⟨C, hC, hne, he⟩)
    · exact .inr (.inr (.inl ⟨params, ret, hC, hne, he⟩))
    · exact .inr (.inr (.inr ⟨params, ret, hC, harity, hargs⟩))
  · intro h
    rcases h with
      hcallee | ⟨C, hC, hne, he⟩ | ⟨params, ret, hC, hne, he⟩ | ⟨params, ret, hC, harity, hargs⟩
    · exact .inl hcallee
    · exact .inr ⟨C, hC, .inl ⟨hne, he⟩⟩
    · exact .inr ⟨_, hC, .inr ⟨params, ret, rfl, .inl ⟨hne, he⟩⟩⟩
    · exact .inr ⟨_, hC, .inr ⟨params, ret, rfl, .inr ⟨harity, hargs⟩⟩⟩

theorem infer_seq_eq_error_iff {first rest : Term Span} {e : TypeError} :
    (seq span first rest).infer env = .error e ↔
      first.infer env = .error e ∨ ∃ S, first.infer env = .ok S ∧ rest.infer env = .error e := by
  simp only [infer_seq, bind_eq_error_iff]

theorem infer_const_eq_error_iff {name : String} {value rest : Term Span} {e : TypeError} :
    (const span name value rest).infer env = .error e ↔
      value.infer env = .error e ∨
      ∃ S, value.infer env = .ok S ∧ rest.infer (env.extend [⟨name, S⟩]) = .error e := by
  simp only [infer_const, bind_eq_error_iff]

end Term

end ArrowTyping
