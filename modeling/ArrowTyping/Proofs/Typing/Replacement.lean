import ArrowTyping.Proofs.Typing.TwoRuns

set_option autoImplicit false

/-!
# Replacing a part of a term

What a term has to do with one of its parts is this: the part is checked, in one environment, and
its type or its error is used; and errors of the parent may point at where the part starts.  So a
part may be replaced by another one that starts at the same place and has the same result there,
and the result of the whole term stays the same.  If checking does not come to the part at all,
only its start counts.

Both statements follow from one about a single node (`Frame.infer_plug_congr`): two fillings of a
frame have the same result if they have the same result in every environment in which the frame
lets checking come to them.  For a child that is not come to there is no such environment.
-/

namespace ArrowTyping

open Term

variable {env inner : Env} {a b : Term Span}

/-! ## One node -/

/-- The loop over the arguments may have one of them replaced.  The replacement has to have the
same result only if the arguments before it pass. -/
theorem Term.inferArgs_replace {before after : List (Term Span)} {params : List Ty}
    (start : a.span.start = b.span.start)
    (h : Passes env before params → a.infer env = b.infer env) (index : Nat) :
    inferArgs env index params (before ++ a :: after) =
      inferArgs env index params (before ++ b :: after) := by
  induction before generalizing index params with
  | nil =>
    cases params with
    | nil => rfl
    | cons param params =>
      rw [List.nil_append, List.nil_append, inferArgs, inferArgs, h passes_nil_args, start]
  | cons first before ih =>
    cases params with
    | nil => rfl
    | cons param params =>
      rw [List.cons_append, List.cons_append, inferArgs, inferArgs]
      refine bind_congr_of_ok fun T hT => bind_congr_of_ok fun _ hrule => ?_
      obtain rfl : T = param := Rule.argument_eq_ok_iff.1 hrule
      exact ih (fun hbefore => h (passes_cons_iff.2 ⟨hT, hbefore⟩)) (index + 1)

/-- A call may have one of its arguments replaced.  The replacement has to have the same result
only if checking comes to it. -/
theorem Frame.infer_plug_callArg_congr {span : Span} {callee : Term Span}
    {before after : List (Term Span)} (start : a.span.start = b.span.start)
    (h : (Frame.callArg span callee before after).Enters env env → a.infer env = b.infer env) :
    (call span callee (before ++ a :: after)).infer env =
      (call span callee (before ++ b :: after)).infer env := by
  have hlength : (before ++ a :: after).length = (before ++ b :: after).length := by simp
  have hplace : ∀ arity, arityPlace span arity (before ++ a :: after) =
      arityPlace span arity (before ++ b :: after) := by
    intro arity
    exact arityPlace_congr (by simp [start]) span arity
  rw [infer_call, infer_call]
  refine bind_congr_of_ok fun C hcallee => bind_congr_of_ok fun signature hsignature => ?_
  obtain rfl : C = signature.toTy := Rule.callee_eq_ok_iff.1 hsignature
  rw [hlength, hplace]
  refine bind_congr_of_ok fun _ harity => ?_
  have hcount : before.length + 1 + after.length = signature.params.length := by
    have := Rule.arity_eq_ok_iff.1 harity
    simp only [List.length_append, List.length_cons, Signature.arity] at this
    omega
  rw [inferArgs_replace start fun hpasses => h (.callArg hcallee hcount hpasses)]

/-- Two fillings of a frame that start at the same place have the same result, if they have it
wherever checking comes to them. -/
theorem Frame.infer_plug_congr {frame : Frame Span} (start : a.span.start = b.span.start)
    (h : ∀ inner, frame.Enters env inner → a.infer inner = b.infer inner) :
    (frame.plug a).infer env = (frame.plug b).infer env := by
  cases frame with
  | addLeft span right =>
    rw [Frame.plug, Frame.plug, infer_add, infer_add, h env .addLeft, start]
  | addRight span left =>
    rw [Frame.plug, Frame.plug, infer_add, infer_add]
    refine bind_congr_of_ok fun L hL => bind_congr_of_ok fun _ hrule => ?_
    obtain rfl : L = .number := Rule.operand_eq_ok_iff.1 hrule
    rw [h env (.addRight hL), start]
  | ifTest span yes no =>
    rw [Frame.plug, Frame.plug, infer_ifElse, infer_ifElse, h env .ifTest, start]
  | ifYes span test no =>
    rw [Frame.plug, Frame.plug, infer_ifElse, infer_ifElse]
    refine bind_congr_of_ok fun C hC => bind_congr_of_ok fun _ hrule => ?_
    obtain rfl : C = .boolean := Rule.test_eq_ok_iff.1 hrule
    rw [h env (.ifYes hC)]
  | ifNo span test yes =>
    rw [Frame.plug, Frame.plug, infer_ifElse, infer_ifElse]
    refine bind_congr_of_ok fun C hC => bind_congr_of_ok fun _ hrule => ?_
    obtain rfl : C = .boolean := Rule.test_eq_ok_iff.1 hrule
    refine bind_congr_of_ok fun Y hY => ?_
    rw [h env (.ifNo hC hY), start]
  | funcBody span params =>
    rw [Frame.plug, Frame.plug, infer_func, infer_func, h _ .funcBody]
  | callCallee span args =>
    rw [Frame.plug, Frame.plug, infer_call, infer_call, h env .callCallee, start]
  | callArg span callee before after => exact infer_plug_callArg_congr start (h env)
  | seqFirst span rest =>
    rw [Frame.plug, Frame.plug, infer_seq, infer_seq, h env .seqFirst]
  | seqRest span first =>
    rw [Frame.plug, Frame.plug, infer_seq, infer_seq]
    refine bind_congr_of_ok fun S hS => ?_
    exact h env (.seqRest hS)
  | constValue span name rest =>
    rw [Frame.plug, Frame.plug, infer_const, infer_const, h env .constValue]
  | constRest span name value =>
    rw [Frame.plug, Frame.plug, infer_const, infer_const]
    refine bind_congr_of_ok fun S hS => ?_
    exact h _ (.constRest hS)

/-! ## Any depth -/

/-- Where a term starts does not depend on what is in its hole, apart from the start of that. -/
theorem Hole.start_fill (start : a.span.start = b.span.start) (hole : Hole Span) :
    (hole.fill a).span.start = (hole.fill b).span.start := by
  cases hole with
  | nil => exact start
  | cons frame hole =>
    rw [fill_cons, fill_cons, Term.span, Term.span, frame.note_plug (fill hole a) (fill hole b)]

/-- Two fillings of a hole that start at the same place give the whole term the same result, if they
have the same result wherever checking comes to them. -/
theorem Hole.infer_fill_congr {hole : Hole Span} (start : a.span.start = b.span.start)
    (h : ∀ inner, hole.Reaches env inner → a.infer inner = b.infer inner) :
    (hole.fill a).infer env = (hole.fill b).infer env := by
  induction hole generalizing env with
  | nil => exact h env .here
  | cons frame hole ih =>
    refine Frame.infer_plug_congr (start_fill start hole) fun between enters => ih ?_
    intro inner reaches
    exact h inner (.step enters reaches)

/-! ## The environment in force -/

/-- The environment that a node puts its missing child in.  Below a constant whose value has no
type there is none. -/
def Frame.envBelow? (env : Env) : Frame Span → Option Env
  | .funcBody _ params => some (env.extend params)
  | .constRest _ name value =>
    match value.infer env with
    | .ok T => some (env.extend [⟨name, T⟩])
    | .error _ => none
  | _ => some env

/-- The environment in force at a hole, whether or not checking comes to the hole. -/
def Hole.envAt? (env : Env) : Hole Span → Option Env
  | [] => some env
  | frame :: hole => (frame.envBelow? env).bind fun between => envAt? between hole

/-- A child that checking comes to is checked in the environment in force there. -/
theorem Frame.Enters.envBelow?_eq {frame : Frame Span} (h : frame.Enters env inner) :
    frame.envBelow? env = some inner := by
  cases h with
  | constRest value_ty => rw [envBelow?, value_ty]
  | _ => rfl

/-- What is in a hole that checking comes to is checked in the environment in force there. -/
theorem Hole.Reaches.envAt?_eq {hole : Hole Span} (h : hole.Reaches env inner) :
    hole.envAt? env = some inner := by
  induction h with
  | here => rfl
  | step enters _ ih => rw [envAt?, enters.envBelow?_eq, Option.bind_some, ih]

/-! ## Replacement -/

/-- Two fillings of a hole that start at the same place give the whole term the same result, if they
have the same result in the environment in force at the hole.  If checking does not come to the
hole, they do so in any case. -/
theorem infer_fill_replace (env : Env) (hole : Hole Span) {a b : Term Span}
    (start : a.span.start = b.span.start) :
    (∀ inner, hole.envAt? env = some inner → a.infer inner = b.infer inner →
      (hole.fill a).infer env = (hole.fill b).infer env) ∧
    ((¬ ∃ inner, hole.Reaches env inner) →
      (hole.fill a).infer env = (hole.fill b).infer env) := by
  refine ⟨?_, ?_⟩
  · intro inner hinner hsame
    refine Hole.infer_fill_congr start fun inner' reaches => ?_
    have henv : inner = inner' := Option.some.inj (hinner.symm.trans reaches.envAt?_eq)
    rw [← henv, hsame]
  · intro hunreached
    refine Hole.infer_fill_congr start fun inner reaches => ?_
    exact absurd ⟨inner, reaches⟩ hunreached

/-- The call `(() => 1)(_)`, whose argument is one too many, as the rest of the program
`const n = 1; _`. -/
def surplusHole : Hole Span :=
  [.constRest .synthetic "n" (.number .synthetic 1),
    .callArg .synthetic (.func .synthetic [] (.number .synthetic 1)) [] []]

/-- The start of the surplus argument is reported and nothing else of it matters.  In the place of
the value of `n`, a number may be replaced by a sum. -/
theorem infer_fill_replace_surplus :
    (surplusHole.fill (.var (.within "f" 40 41) "m")).infer .empty =
      (surplusHole.fill (.number (.within "f" 40 47) 2)).infer .empty ∧
    (Hole.fill [.constValue .synthetic "n" (.var .synthetic "n")]
        (.number .synthetic 1)).infer .empty =
      (Hole.fill [.constValue .synthetic "n" (.var .synthetic "n")]
        (.add .synthetic (.number .synthetic 1) (.number .synthetic 2))).infer .empty := by
  refine ⟨?_, ?_⟩
  · refine (infer_fill_replace .empty surplusHole rfl).2 fun h => ?_
    obtain ⟨inner, hreaches⟩ := h
    cases hreaches with
    | step enters reaches =>
      cases enters with
      | constRest =>
        cases reaches with
        | step enters _ =>
          cases enters with
          | callArg callee_ty arity =>
            -- The callee takes no parameters, so the arity does not fit.
            cases callee_ty
            simp [Scope.types] at arity
  · exact (infer_fill_replace .empty _ rfl).1 .empty rfl rfl

end ArrowTyping
