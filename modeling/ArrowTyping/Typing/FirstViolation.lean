import ArrowTyping.Term.Hole
import ArrowTyping.Typing.Check

set_option autoImplicit false

/-!
# The first violation

Checking goes through a term from left to right and from the outside in.  Before it comes to a
child of a node, everything that the node requires of the children before it must hold.
`Frame.Enters` lists these requirements for each kind of child, together with the environment in
which the child is then checked; `Hole.Reaches` follows a whole way down from the root.

`Term.Breaks` says which error a node gives rise to by itself, when all of its children that were
looked at have types and these types do not go together.  The error that checking reports is the
one of the first such node that is reached.
-/

namespace ArrowTyping

open Term

/-- The arguments have the types of the parameters in the same places. -/
def Passes (env : Env) (args : List (Term Span)) (params : List Ty) : Prop :=
  ∀ (i : Nat) (arg : Term Span) (param : Ty), args[i]? = some arg → params[i]? = some param →
    arg.infer env = .ok param

/-- When a node is checked in the environment `env`, the child missing in the frame is come to and
is checked in the environment `inner`. -/
inductive Frame.Enters (env : Env) : Frame Span → (inner : Env) → Prop where
  | addLeft {span right} : Enters env (.addLeft span right) env
  | addRight {span left} (left_ty : left.infer env = .ok .number) :
    Enters env (.addRight span left) env
  | ifTest {span yes no} : Enters env (.ifTest span yes no) env
  | ifYes {span test no} (test_ty : test.infer env = .ok .boolean) :
    Enters env (.ifYes span test no) env
  | ifNo {span test yes T} (test_ty : test.infer env = .ok .boolean)
    (yes_ty : yes.infer env = .ok T) : Enters env (.ifNo span test yes) env
  | funcBody {span params} : Enters env (.funcBody span params) (env.extend params)
  | callCallee {span args} : Enters env (.callCallee span args) env
  | callArg {span callee before after params ret}
    (callee_ty : callee.infer env = .ok (.func params ret))
    (arity : before.length + 1 + after.length = params.length)
    (passes : Passes env before params) : Enters env (.callArg span callee before after) env
  | seqFirst {span rest} : Enters env (.seqFirst span rest) env
  | seqRest {span first T} (first_ty : first.infer env = .ok T) :
    Enters env (.seqRest span first) env
  | constValue {span name rest} : Enters env (.constValue span name rest) env
  | constRest {span name value T} (value_ty : value.infer env = .ok T) :
    Enters env (.constRest span name value) (env.extend [⟨name, T⟩])

/-- When a term is checked in the environment `env`, the hole is come to, and what is in the hole
is checked in the environment `inner`. -/
inductive Hole.Reaches : (env : Env) → Hole Span → (inner : Env) → Prop where
  | here {env} : Reaches env [] env
  | step {env frame between hole inner} (enters : Frame.Enters env frame between)
    (reaches : Reaches between hole inner) : Reaches env (frame :: hole) inner

/-- The error that a node gives rise to by itself in the environment `env`. -/
inductive Term.Breaks (env : Env) : Term Span → TypeError → Prop where
  | unbound {span name} (unbound : env.lookup? name = none) :
    Breaks env (.var span name) ⟨.unbound name, span.start⟩
  | leftNotNumber {span left right T} (left_ty : left.infer env = .ok T) (ne : T ≠ .number) :
    Breaks env (.add span left right) ⟨.operandNotNumber .left T, left.span.start⟩
  | rightNotNumber {span left right T} (left_ty : left.infer env = .ok .number)
    (right_ty : right.infer env = .ok T) (ne : T ≠ .number) :
    Breaks env (.add span left right) ⟨.operandNotNumber .right T, right.span.start⟩
  | testNotBoolean {span test yes no T} (test_ty : test.infer env = .ok T) (ne : T ≠ .boolean) :
    Breaks env (.ifElse span test yes no) ⟨.testNotBoolean T, test.span.start⟩
  | branchesDiffer {span test yes no S T} (test_ty : test.infer env = .ok .boolean)
    (yes_ty : yes.infer env = .ok S) (no_ty : no.infer env = .ok T) (ne : S ≠ T) :
    Breaks env (.ifElse span test yes no) ⟨.branchesDiffer S T, no.span.start⟩
  | notCallable {span callee args T} (callee_ty : callee.infer env = .ok T)
    (notFunc : ∀ params ret, T ≠ .func params ret) :
    Breaks env (.call span callee args) ⟨.notCallable T, callee.span.start⟩
  | missingArgument {span callee args params ret}
    (callee_ty : callee.infer env = .ok (.func params ret))
    (missing : args.length < params.length) :
    Breaks env (.call span callee args) ⟨.wrongArity params.length args.length, span.stop⟩
  | surplusArgument {span callee args params ret surplus}
    (callee_ty : callee.infer env = .ok (.func params ret))
    (first_surplus : args[params.length]? = some surplus) :
    Breaks env (.call span callee args)
      ⟨.wrongArity params.length args.length, surplus.span.start⟩
  | wrongArgument {span callee before arg after params ret param T}
    (callee_ty : callee.infer env = .ok (.func params ret))
    (arity : before.length + 1 + after.length = params.length)
    (passes : Passes env before params) (param_eq : params[before.length]? = some param)
    (arg_ty : arg.infer env = .ok T) (ne : T ≠ param) :
    Breaks env (.call span callee (before ++ arg :: after))
      ⟨.wrongArgument before.length param T, arg.span.start⟩

/-- A child is come to in at most one environment. -/
theorem Frame.Enters.unique {env inner inner' : Env} {frame : Frame Span}
    (h : frame.Enters env inner) (h' : frame.Enters env inner') : inner = inner' := by
  cases h with
  | constRest value_ty =>
    cases h' with
    | constRest value_ty' => rw [Except.ok.inj (value_ty.symm.trans value_ty')]
  | _ => cases h'; rfl

/-- A hole is come to in at most one environment. -/
theorem Hole.Reaches.unique {env inner inner' : Env} {hole : Hole Span}
    (h : hole.Reaches env inner) (h' : hole.Reaches env inner') : inner = inner' := by
  induction h with
  | here => cases h'; rfl
  | step enters _ ih =>
    cases h' with
    | step enters' reaches' =>
      cases enters.unique enters'
      exact ih reaches'

end ArrowTyping
