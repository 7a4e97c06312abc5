import ArrowTyping.Violation

set_option autoImplicit false

/-!
# The rules for single nodes

Each rule is told the types that the children of a node have, and the place to report if they do
not go together.  A rule looks at nothing else, so it is the same wherever the node stands, and
the lemmas beside it say exactly when it holds and what it reports otherwise.
-/

namespace ArrowTyping.Rule

/-- A condition that has to hold; if it does not, the violation is reported at the place. -/
def require (holds : Bool) (violation : Violation) (place : Position) : Except TypeError Unit :=
  if holds then .ok () else .error ⟨violation, place⟩

@[simp] theorem require_true (violation : Violation) (place : Position) :
    require true violation place = .ok () := rfl

@[simp] theorem require_false (violation : Violation) (place : Position) :
    require false violation place = .error ⟨violation, place⟩ := rfl

theorem require_eq_ok_iff {holds : Bool} {violation : Violation} {place : Position} :
    require holds violation place = .ok () ↔ holds = true := by
  cases holds <;> simp

theorem require_eq_error_iff {holds : Bool} {violation : Violation} {place : Position}
    {e : TypeError} :
    require holds violation place = .error e ↔ holds = false ∧ e = ⟨violation, place⟩ := by
  cases holds <;> simp [eq_comm]

/-! ## Sums -/

/-- An operand of a sum is a number. -/
def operand (side : Side) (received : Ty) (place : Position) : Except TypeError Unit :=
  require received.isNumber (.operandNotNumber side received) place

theorem operand_eq_ok_iff {side : Side} {received : Ty} {place : Position} :
    operand side received place = .ok () ↔ received = .number :=
  require_eq_ok_iff.trans Ty.isNumber_iff

theorem operand_eq_error_iff {side : Side} {received : Ty} {place : Position} {e : TypeError} :
    operand side received place = .error e ↔
      received ≠ .number ∧ e = ⟨.operandNotNumber side received, place⟩ := by
  rw [operand, require_eq_error_iff, ← Bool.not_eq_true, Ty.isNumber_iff]

/-! ## Conditionals -/

/-- The test of a conditional is a boolean. -/
def test (received : Ty) (place : Position) : Except TypeError Unit :=
  require received.isBoolean (.testNotBoolean received) place

theorem test_eq_ok_iff {received : Ty} {place : Position} :
    test received place = .ok () ↔ received = .boolean :=
  require_eq_ok_iff.trans Ty.isBoolean_iff

theorem test_eq_error_iff {received : Ty} {place : Position} {e : TypeError} :
    test received place = .error e ↔
      received ≠ .boolean ∧ e = ⟨.testNotBoolean received, place⟩ := by
  rw [test, require_eq_error_iff, ← Bool.not_eq_true, Ty.isBoolean_iff]

/-- Both branches of a conditional have the same type. -/
def branches (yes no : Ty) (place : Position) : Except TypeError Unit :=
  require (yes == no) (.branchesDiffer yes no) place

theorem branches_eq_ok_iff {yes no : Ty} {place : Position} :
    branches yes no place = .ok () ↔ yes = no :=
  require_eq_ok_iff.trans beq_iff_eq

theorem branches_eq_error_iff {yes no : Ty} {place : Position} {e : TypeError} :
    branches yes no place = .error e ↔ yes ≠ no ∧ e = ⟨.branchesDiffer yes no, place⟩ := by
  rw [branches, require_eq_error_iff, beq_eq_false_iff_ne]

/-! ## Calls -/

/-- What is called is a function; the rule gives its signature. -/
def callee (received : Ty) (place : Position) : Except TypeError Signature :=
  match received.signature? with
  | some signature => .ok signature
  | none => .error ⟨.notCallable received, place⟩

theorem callee_eq_ok_iff {received : Ty} {place : Position} {signature : Signature} :
    callee received place = .ok signature ↔ received = signature.toTy := by
  rw [← Ty.signature?_eq_some_iff]
  unfold callee
  split
  · next h => simp [h]
  · next h => simp [h]

theorem callee_eq_error_iff {received : Ty} {place : Position} {e : TypeError} :
    callee received place = .error e ↔
      (∀ params ret, received ≠ .func params ret) ∧ e = ⟨.notCallable received, place⟩ := by
  cases received <;> simp [callee, Ty.signature?, eq_comm]

/-- A call passes as many arguments as there are parameters. -/
def arity (signature : Signature) (count : Nat) (place : Position) : Except TypeError Unit :=
  require (count == signature.arity) (.wrongArity signature.arity count) place

theorem arity_eq_ok_iff {signature : Signature} {count : Nat} {place : Position} :
    arity signature count place = .ok () ↔ count = signature.arity :=
  require_eq_ok_iff.trans beq_iff_eq

theorem arity_eq_error_iff {signature : Signature} {count : Nat} {place : Position}
    {e : TypeError} :
    arity signature count place = .error e ↔
      count ≠ signature.arity ∧ e = ⟨.wrongArity signature.arity count, place⟩ := by
  rw [arity, require_eq_error_iff, beq_eq_false_iff_ne]

/-- The argument number `index` of a call has the type of its parameter. -/
def argument (index : Nat) (param received : Ty) (place : Position) : Except TypeError Unit :=
  require (received == param) (.wrongArgument index param received) place

theorem argument_eq_ok_iff {index : Nat} {param received : Ty} {place : Position} :
    argument index param received place = .ok () ↔ received = param :=
  require_eq_ok_iff.trans beq_iff_eq

theorem argument_eq_error_iff {index : Nat} {param received : Ty} {place : Position}
    {e : TypeError} :
    argument index param received place = .error e ↔
      received ≠ param ∧ e = ⟨.wrongArgument index param received, place⟩ := by
  rw [argument, require_eq_error_iff, beq_eq_false_iff_ne]

end ArrowTyping.Rule
