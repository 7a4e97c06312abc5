import ArrowTyping.Env
import ArrowTyping.Term.Basic
import ArrowTyping.Typing.Rule

set_option autoImplicit false

/-!
# Checking a term

`Term.check` walks a term from left to right and from the outside in.  It either puts a type on
every node or stops at the first rule that does not hold.  The rules themselves are those of
`Rule`; the walk says in which order the children are checked, in which environment, and which
place is reported.

The place is the start of the subterm that has the wrong type.  A call with the wrong number of
arguments has no such subterm: a surplus argument is reported where the first of the surplus
arguments starts, and missing arguments are reported at the end of the call, where they would
stand.

`Term.infer` keeps only the type of the root.  The `infer_` lemmas give it for each kind of node
in terms of the children, so that nobody has to look at checked trees to reason about types.
-/

namespace ArrowTyping

/-- The type of a name that is used at a given place. -/
def Env.fetch (env : Env) (name : String) (place : Position) : Except TypeError Ty :=
  match env.lookup? name with
  | some t => .ok t
  | none => .error ⟨.unbound name, place⟩

theorem Env.fetch_eq_ok_iff {env : Env} {name : String} {place : Position} {t : Ty} :
    env.fetch name place = .ok t ↔ env.lookup? name = some t := by
  unfold fetch
  split <;> simp [*]

theorem Env.fetch_eq_error_iff {env : Env} {name : String} {place : Position} {e : TypeError} :
    env.fetch name place = .error e ↔
      env.lookup? name = none ∧ e = ⟨.unbound name, place⟩ := by
  unfold fetch
  split <;> simp [*, eq_comm]

namespace Term

/-- Where a call with the wrong number of arguments is reported: at the first argument that has
no parameter, or else at the end of the call. -/
def arityPlace (call : Span) (arity : Nat) (args : List (Term Span)) : Position :=
  match args[arity]? with
  | some surplus => surplus.span.start
  | none => call.stop

mutual

/-- Puts a type on every node of a term, or reports the first rule that the term breaks. -/
def check (env : Env) : Term Span → Except TypeError (Term Typed)
  | .bool span value => .ok (.bool ⟨span, .boolean⟩ value)
  | .number span value => .ok (.number ⟨span, .number⟩ value)
  | .add span left right => do
    let left' ← left.check env
    Rule.operand .left left'.ty left.span.start
    let right' ← right.check env
    Rule.operand .right right'.ty right.span.start
    return .add ⟨span, .number⟩ left' right'
  | .ifElse span test yes no => do
    let test' ← test.check env
    Rule.test test'.ty test.span.start
    let yes' ← yes.check env
    let no' ← no.check env
    Rule.branches yes'.ty no'.ty no.span.start
    return .ifElse ⟨span, yes'.ty⟩ test' yes' no'
  | .var span name => do
    let ty ← env.fetch name span.start
    return .var ⟨span, ty⟩ name
  | .func span params body => do
    let body' ← body.check (env.extend params)
    return .func ⟨span, .func params.types body'.ty⟩ params body'
  | .call span callee args => do
    let callee' ← callee.check env
    let signature ← Rule.callee callee'.ty callee.span.start
    Rule.arity signature args.length (arityPlace span signature.arity args)
    let args' ← checkArgs env 0 signature.params args
    return .call ⟨span, signature.ret⟩ callee' args'
  | .seq span first rest => do
    let first' ← first.check env
    let rest' ← rest.check env
    return .seq ⟨span, rest'.ty⟩ first' rest'
  | .const span name value rest => do
    let value' ← value.check env
    let rest' ← rest.check (env.extend [⟨name, value'.ty⟩])
    return .const ⟨span, rest'.ty⟩ name value' rest'

/-- Checks arguments one after the other, each against its parameter; `index` is the number of
the first of them in the call. -/
def checkArgs (env : Env) (index : Nat) :
    List Ty → List (Term Span) → Except TypeError (List (Term Typed))
  | param :: params, arg :: args => do
    let arg' ← arg.check env
    Rule.argument index param arg'.ty arg.span.start
    let args' ← checkArgs env (index + 1) params args
    return arg' :: args'
  | _, _ => .ok []

end

/-- The type of a term, or the first rule that the term breaks. -/
def infer (env : Env) (t : Term Span) : Except TypeError Ty := do
  let checked ← t.check env
  return checked.ty

/-- Checks a whole program, which may use no name that it does not bind itself. -/
def checkProgram (t : Term Span) : Except TypeError (Term Typed) := t.check .empty

/-! ## The type of a node by the types of its children -/

theorem infer_eq_ok_iff {env : Env} {t : Term Span} {T : Ty} :
    t.infer env = .ok T ↔ ∃ checked, t.check env = .ok checked ∧ checked.ty = T := by
  unfold infer
  cases t.check env <;> simp [bind, Except.bind, pure, Except.pure]

/-- Nothing is lost of an error. -/
theorem infer_eq_error_iff {env : Env} {t : Term Span} {e : TypeError} :
    t.infer env = .error e ↔ t.check env = .error e := by
  unfold infer
  cases t.check env <;> simp [bind, Except.bind, pure, Except.pure]

/-- Checks arguments as `checkArgs` does and keeps nothing of them. -/
def inferArgs (env : Env) (index : Nat) : List Ty → List (Term Span) → Except TypeError Unit
  | param :: params, arg :: args => do
    let T ← arg.infer env
    Rule.argument index param T arg.span.start
    inferArgs env (index + 1) params args
  | _, _ => .ok ()

variable (env : Env)

theorem inferArgs_eq_checkArgs (index : Nat) (params : List Ty) (args : List (Term Span)) :
    inferArgs env index params args = checkArgs env index params args >>= fun _ => pure () := by
  induction args generalizing index params with
  | nil => cases params <;> rfl
  | cons arg args ih =>
    cases params with
    | nil => rfl
    | cons param params => simp only [inferArgs, infer, checkArgs, ih, bind_assoc, pure_bind]

variable (span : Span)

@[simp] theorem infer_bool (value : Bool) : (bool span value).infer env = .ok .boolean := rfl

@[simp] theorem infer_number (value : Float) : (number span value).infer env = .ok .number := rfl

theorem infer_add (left right : Term Span) :
    (add span left right).infer env = (do
      let L ← left.infer env
      Rule.operand .left L left.span.start
      let R ← right.infer env
      Rule.operand .right R right.span.start
      return .number) := by
  simp only [infer, check, bind_assoc, pure_bind, ty, note]

theorem infer_ifElse (test yes no : Term Span) :
    (ifElse span test yes no).infer env = (do
      let C ← test.infer env
      Rule.test C test.span.start
      let Y ← yes.infer env
      let N ← no.infer env
      Rule.branches Y N no.span.start
      return Y) := by
  simp only [infer, check, bind_assoc, pure_bind, ty, note]

theorem infer_var (name : String) : (var span name).infer env = env.fetch name span.start := by
  simp only [infer, check, bind_assoc, pure_bind, ty, note, bind_pure]

theorem infer_func (params : Scope) (body : Term Span) :
    (func span params body).infer env = (do
      let T ← body.infer (env.extend params)
      return .func params.types T) := by
  simp only [infer, check, bind_assoc, pure_bind, ty, note]

theorem infer_call (callee : Term Span) (args : List (Term Span)) :
    (call span callee args).infer env = (do
      let C ← callee.infer env
      let signature ← Rule.callee C callee.span.start
      Rule.arity signature args.length (arityPlace span signature.arity args)
      inferArgs env 0 signature.params args
      return signature.ret) := by
  simp only [infer, check, inferArgs_eq_checkArgs, bind_assoc, pure_bind, ty, note]

theorem infer_seq (first rest : Term Span) :
    (seq span first rest).infer env = (do
      let _ ← first.infer env
      rest.infer env) := by
  simp only [infer, check, bind_assoc, pure_bind, ty, note]

theorem infer_const (name : String) (value rest : Term Span) :
    (const span name value rest).infer env = (do
      let T ← value.infer env
      rest.infer (env.extend [⟨name, T⟩])) := by
  simp only [infer, check, bind_assoc, pure_bind, ty, note]

end Term

end ArrowTyping
