import ArrowTyping.Proofs.Typing.Inversion

set_option autoImplicit false

/-!
# The reported error is the first violation

An error of a whole term belongs to one node: the node breaks its own rule, and everything that is
required on the way down to it holds.  `Term.FirstViolation` says so, with the node in the hole
that the way leads to.

Checking reports `e` exactly when `e` is such a first violation.  In the one direction, a node
hands on the error of a child that it came to (`Frame.Enters.infer_error`) and reports its own
violation when it breaks its rule (`Term.Breaks.infer_error`).  In the other direction, an error at
a node is either its own or that of a child that it came to, and the induction on the term follows
the child.  Since checking has one result, a term has at most one first violation, however many
violations it contains.
-/

namespace ArrowTyping

open Term

variable {env inner : Env} {t s : Term Span} {frame : Frame Span} {e : TypeError}

/-- The error `e` of a node of `t`, when checking `t` comes to this node and the node breaks its own
rule. -/
def Term.FirstViolation (env : Env) (t : Term Span) (e : TypeError) : Prop :=
  ∃ (hole : Hole Span) (s : Term Span) (inner : Env),
    t = hole.fill s ∧ hole.Reaches env inner ∧ s.Breaks inner e

/-- A node's own violation is the first one of the term that it is the root of. -/
theorem Term.FirstViolation.here (h : t.Breaks env e) : t.FirstViolation env e :=
  ⟨[], t, env, rfl, .here, h⟩

/-- The first violation of a child that is come to is the first violation of its parent. -/
theorem Term.FirstViolation.below (enters : frame.Enters env inner)
    (h : s.FirstViolation inner e) : (frame.plug s).FirstViolation env e := by
  obtain ⟨hole, culprit, last, rfl, hreaches, hbreaks⟩ := h
  exact ⟨frame :: hole, culprit, last, rfl, .step enters hreaches, hbreaks⟩

/-! ## A first violation is reported -/

/-- The number of arguments of a call, counted around one of them. -/
theorem length_around (before after : List (Term Span)) (arg : Term Span) :
    (before ++ arg :: after).length = before.length + 1 + after.length := by
  rw [List.length_append, List.length_cons]
  omega

/-- A call hands on the error that ends the loop over its arguments. -/
theorem Term.infer_call_of_stopsAt {span : Span} {callee arg : Term Span}
    {before after : List (Term Span)} {params : List Ty} {ret : Ty}
    (hcallee : callee.infer env = .ok (.func params ret))
    (harity : before.length + 1 + after.length = params.length)
    (hstop : StopsAt env 0 params before arg e) :
    (call span callee (before ++ arg :: after)).infer env = .error e := by
  have hlength : (before ++ arg :: after).length = params.length := by
    rw [length_around]
    exact harity
  refine infer_call_eq_error_iff.2 (.inr (.inr (.inr ?_)))
  exact ⟨params, ret, hcallee, hlength, before, arg, after, rfl, hstop⟩

/-- A node hands on the error of a child that it came to. -/
theorem Frame.Enters.infer_error (enters : frame.Enters env inner)
    (h : s.infer inner = .error e) : (frame.plug s).infer env = .error e := by
  cases enters with
  | addLeft => exact infer_add_eq_error_iff.2 (.inl h)
  | addRight left_ty => exact infer_add_eq_error_iff.2 (.inr (.inr (.inl ⟨left_ty, h⟩)))
  | ifTest => exact infer_ifElse_eq_error_iff.2 (.inl h)
  | ifYes test_ty => exact infer_ifElse_eq_error_iff.2 (.inr (.inr (.inl ⟨test_ty, h⟩)))
  | ifNo test_ty yes_ty =>
    exact infer_ifElse_eq_error_iff.2 (.inr (.inr (.inr (.inl ⟨test_ty, _, yes_ty, h⟩))))
  | funcBody => exact infer_func_eq_error_iff.2 h
  | callCallee => exact infer_call_eq_error_iff.2 (.inl h)
  | @callArg span callee before after params ret callee_ty arity passes =>
    have hlast : before.length < params.length := by omega
    have hparam : params[before.length]? = some params[before.length] :=
      List.getElem?_eq_getElem hlast
    exact infer_call_of_stopsAt callee_ty arity ⟨_, hparam, passes, .inl h⟩
  | seqFirst => exact infer_seq_eq_error_iff.2 (.inl h)
  | seqRest first_ty => exact infer_seq_eq_error_iff.2 (.inr ⟨_, first_ty, h⟩)
  | constValue => exact infer_const_eq_error_iff.2 (.inl h)
  | constRest value_ty => exact infer_const_eq_error_iff.2 (.inr ⟨_, value_ty, h⟩)

/-- A whole term hands on the error of a subterm that checking comes to. -/
theorem Hole.Reaches.infer_error {hole : Hole Span} (reaches : hole.Reaches env inner)
    (h : s.infer inner = .error e) : (hole.fill s).infer env = .error e := by
  induction reaches with
  | here => exact h
  | step enters _ ih =>
    rw [fill_cons]
    exact enters.infer_error (ih h)

/-- Missing arguments are reported at the end of the call. -/
theorem Term.arityPlace_of_missing {span : Span} {arity : Nat} {args : List (Term Span)}
    (h : args.length < arity) : arityPlace span arity args = span.stop := by
  have hnone : args[arity]? = none := List.getElem?_eq_none (Nat.le_of_lt h)
  unfold arityPlace
  rw [hnone]

/-- A surplus of arguments is reported at the first of them. -/
theorem Term.arityPlace_of_surplus {span : Span} {arity : Nat} {args : List (Term Span)}
    {surplus : Term Span} (h : args[arity]? = some surplus) :
    arityPlace span arity args = surplus.span.start := by
  unfold arityPlace
  rw [h]

/-- A node that breaks its own rule reports this violation. -/
theorem Term.Breaks.infer_error (h : t.Breaks env e) : t.infer env = .error e := by
  cases h with
  | unbound unbound => exact infer_var_eq_error_iff.2 ⟨unbound, rfl⟩
  | leftNotNumber left_ty ne =>
    exact infer_add_eq_error_iff.2 (.inr (.inl ⟨_, left_ty, ne, rfl⟩))
  | rightNotNumber left_ty right_ty ne =>
    exact infer_add_eq_error_iff.2 (.inr (.inr (.inr ⟨left_ty, _, right_ty, ne, rfl⟩)))
  | testNotBoolean test_ty ne =>
    exact infer_ifElse_eq_error_iff.2 (.inr (.inl ⟨_, test_ty, ne, rfl⟩))
  | branchesDiffer test_ty yes_ty no_ty ne =>
    refine infer_ifElse_eq_error_iff.2 (.inr (.inr (.inr (.inr ?_))))
    exact ⟨test_ty, _, yes_ty, _, no_ty, ne, rfl⟩
  | notCallable callee_ty notFunc =>
    exact infer_call_eq_error_iff.2 (.inr (.inl ⟨_, callee_ty, notFunc, rfl⟩))
  | missingArgument callee_ty missing =>
    rw [← arityPlace_of_missing missing]
    refine infer_call_eq_error_iff.2 (.inr (.inr (.inl ?_)))
    exact ⟨_, _, callee_ty, Nat.ne_of_lt missing, rfl⟩
  | surplusArgument callee_ty first_surplus =>
    have hlonger := (List.getElem?_eq_some_iff.1 first_surplus).1
    rw [← arityPlace_of_surplus first_surplus]
    refine infer_call_eq_error_iff.2 (.inr (.inr (.inl ?_)))
    exact ⟨_, _, callee_ty, Nat.ne_of_gt hlonger, rfl⟩
  | @wrongArgument span callee before arg after params ret param T callee_ty arity passes param_eq
      arg_ty ne =>
    have hstop : StopsAt env 0 params before arg
        ⟨.wrongArgument before.length param T, arg.span.start⟩ := by
      refine ⟨param, param_eq, passes, .inr ⟨T, arg_ty, ne, ?_⟩⟩
      rw [Nat.zero_add]
    exact infer_call_of_stopsAt callee_ty arity hstop

/-! ## A reported error is a first violation -/

/-- An argument that ends the loop of a call is at fault or contains what is. -/
theorem firstViolation_of_stopsAt {span : Span} {callee arg : Term Span}
    {before after : List (Term Span)} {params : List Ty} {ret : Ty}
    (hcallee : callee.infer env = .ok (.func params ret))
    (harity : (before ++ arg :: after).length = params.length)
    (hstop : StopsAt env 0 params before arg e)
    (ih : arg.infer env = .error e → arg.FirstViolation env e) :
    (call span callee (before ++ arg :: after)).FirstViolation env e := by
  rw [length_around] at harity
  obtain ⟨param, hparam, hpasses, herr | ⟨T, hT, hne, rfl⟩⟩ := hstop
  · exact .below (.callArg hcallee harity hpasses) (ih herr)
  · rw [Nat.zero_add]
    exact .here (.wrongArgument hcallee harity hpasses hparam hT hne)

/-- An arity error is at the call itself, wherever it is reported. -/
theorem breaks_of_wrong_arity {span : Span} {callee : Term Span} {args : List (Term Span)}
    {params : List Ty} {ret : Ty} (hcallee : callee.infer env = .ok (.func params ret))
    (hne : args.length ≠ params.length) :
    (call span callee args).Breaks env
      ⟨.wrongArity params.length args.length, arityPlace span params.length args⟩ := by
  rcases Nat.lt_or_gt_of_ne hne with hmissing | hsurplus
  · rw [arityPlace_of_missing hmissing]
    exact .missingArgument hcallee hmissing
  · have hfirst : args[params.length]? = some args[params.length] :=
      List.getElem?_eq_getElem hsurplus
    rw [arityPlace_of_surplus hfirst]
    exact .surplusArgument hcallee hfirst

/-- Every reported error is a first violation. -/
theorem firstViolation_of_infer_error (h : t.infer env = .error e) : t.FirstViolation env e := by
  -- The induction is on the term.  An error at a node is its own, which ends the way down, or that
  -- of a child it came to, which the statement for the child takes further down.
  induction t generalizing env with
  | bool span value => cases h
  | number span value => cases h
  | add span left right ihl ihr =>
    rcases infer_add_eq_error_iff.1 h with
      hleft | ⟨L, hL, hne, rfl⟩ | ⟨hL, hright⟩ | ⟨hL, R, hR, hne, rfl⟩
    · exact .below .addLeft (ihl hleft)
    · exact .here (.leftNotNumber hL hne)
    · exact .below (.addRight hL) (ihr hright)
    · exact .here (.rightNotNumber hL hR hne)
  | ifElse span test yes no iht ihy ihn =>
    rcases infer_ifElse_eq_error_iff.1 h with
      htest | ⟨C, hC, hne, rfl⟩ | ⟨hC, hyes⟩ | ⟨hC, Y, hY, hno⟩ | ⟨hC, Y, hY, N, hN, hne, rfl⟩
    · exact .below .ifTest (iht htest)
    · exact .here (.testNotBoolean hC hne)
    · exact .below (.ifYes hC) (ihy hyes)
    · exact .below (.ifNo hC hY) (ihn hno)
    · exact .here (.branchesDiffer hC hY hN hne)
  | var span name =>
    obtain ⟨hunbound, rfl⟩ := infer_var_eq_error_iff.1 h
    exact .here (.unbound hunbound)
  | func span params body ih => exact .below .funcBody (ih (infer_func_eq_error_iff.1 h))
  | call span callee args ihc ihs =>
    rcases infer_call_eq_error_iff.1 h with
      hcallee | ⟨C, hC, hne, rfl⟩ | ⟨params, ret, hC, hne, rfl⟩ |
      ⟨params, ret, hC, harity, before, arg, after, rfl, hstop⟩
    · exact .below .callCallee (ihc hcallee)
    · exact .here (.notCallable hC hne)
    · exact .here (breaks_of_wrong_arity hC hne)
    · exact firstViolation_of_stopsAt hC harity hstop (ihs arg (by simp))
  | seq span first rest ihf ihr =>
    rcases infer_seq_eq_error_iff.1 h with hfirst | ⟨S, hS, hrest⟩
    · exact .below .seqFirst (ihf hfirst)
    · exact .below (.seqRest hS) (ihr hrest)
  | const span name value rest ihv ihr =>
    rcases infer_const_eq_error_iff.1 h with hvalue | ⟨S, hS, hrest⟩
    · exact .below .constValue (ihv hvalue)
    · exact .below (.constRest hS) (ihr hrest)

/-! ## The first violation and nothing else -/

/-- Checking reports an error exactly when checking comes to a node that gives rise to this error
by itself. -/
theorem check_eq_error_iff_reaches_breaks (env : Env) (t : Term Span) (e : TypeError) :
    t.check env = .error e ↔
      ∃ (hole : Hole Span) (s : Term Span) (inner : Env),
        t = hole.fill s ∧ hole.Reaches env inner ∧ s.Breaks inner e := by
  rw [← infer_eq_error_iff]
  constructor
  · intro h
    exact firstViolation_of_infer_error h
  · intro h
    obtain ⟨hole, s, inner, rfl, hreaches, hbreaks⟩ := h
    exact hreaches.infer_error hbreaks.infer_error

end ArrowTyping
