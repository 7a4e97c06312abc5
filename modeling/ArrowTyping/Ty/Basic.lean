set_option autoImplicit false

/-!
# Types

A type is `boolean`, `number`, or an arrow from a list of parameter types to a return type.
Parameters have an order but no names, and an arrow may take none at all.

Types are compared as trees.  The comparison `Ty.beq` walks both trees at once; since the
parameters of an arrow form a list, it goes hand in hand with the comparison `Ty.beqAll` of two
lists, which fails as soon as one list is longer than the other.  `beq_eq_true_iff` says that
it decides equality, so `==` and `if a = b` may be used on types from here on.
-/

namespace ArrowTyping

/-- A type of the language. -/
inductive Ty where
  /-- The type of `true` and `false`. -/
  | boolean
  /-- The type of number literals and of sums. -/
  | number
  /-- The type of functions that take `params`, in this order, and give back a `ret`. -/
  | func (params : List Ty) (ret : Ty)
  deriving Repr, Inhabited

namespace Ty

/-- Induction over types in which the case of an arrow may use the statement for each of the
parameter types. -/
@[elab_as_elim, induction_eliminator]
theorem induction {motive : Ty → Prop} (boolean : motive .boolean) (number : motive .number)
    (func : ∀ params ret, (∀ p ∈ params, motive p) → motive ret → motive (.func params ret))
    (t : Ty) : motive t :=
  @Ty.rec motive (fun ps => ∀ p ∈ ps, motive p)
    boolean number (fun params ret hps hret => func params ret hps hret)
    (fun _ h => absurd h List.not_mem_nil)
    (fun _ _ hp hps q hq => (List.mem_cons.1 hq).elim (fun e => e ▸ hp) (hps q)) t

/-! ## Comparison -/

mutual

/-- Whether two types are the same tree. -/
def beq : Ty → Ty → Bool
  | .boolean, .boolean => true
  | .number, .number => true
  | .func params ret, .func params' ret' => beqAll params params' && beq ret ret'
  | _, _ => false

/-- Whether two lists hold the same types in the same order. -/
def beqAll : List Ty → List Ty → Bool
  | [], [] => true
  | p :: ps, q :: qs => beq p q && beqAll ps qs
  | _, _ => false

end

/-- A list comparison decides equality when the type comparison does on the members of the
first list. -/
theorem beqAll_eq_true_iff_of {ps : List Ty} (h : ∀ p ∈ ps, ∀ q, beq p q = true ↔ p = q) :
    ∀ qs : List Ty, beqAll ps qs = true ↔ ps = qs := by
  induction ps with
  | nil => intro qs; cases qs <;> simp [beqAll]
  | cons p ps ih =>
    intro qs
    cases qs with
    | nil => simp [beqAll]
    | cons q qs =>
      have hp := h p List.mem_cons_self q
      have hps := ih (fun r hr => h r (List.mem_cons_of_mem p hr)) qs
      simp [beqAll, hp, hps]

/-- The comparison of types decides equality. -/
theorem beq_eq_true_iff (a b : Ty) : beq a b = true ↔ a = b := by
  induction a generalizing b with
  | boolean => cases b <;> simp [beq]
  | number => cases b <;> simp [beq]
  | func params ret ihps ihret =>
    cases b with
    | boolean => simp [beq]
    | number => simp [beq]
    | func params' ret' => simp [beq, beqAll_eq_true_iff_of ihps, ihret]

instance : BEq Ty := ⟨beq⟩

instance : LawfulBEq Ty where
  eq_of_beq h := (beq_eq_true_iff _ _).1 h
  rfl := (beq_eq_true_iff _ _).2 rfl

instance : DecidableEq Ty := fun a b => decidable_of_iff (beq a b = true) (beq_eq_true_iff a b)

/-! ## Kinds of types -/

/-- The name of the kind of type, the same for all arrows. -/
def kindName : Ty → String
  | .boolean => "Boolean"
  | .number => "Number"
  | .func _ _ => "Function"

def isBoolean : Ty → Bool
  | .boolean => true
  | _ => false

def isNumber : Ty → Bool
  | .number => true
  | _ => false

theorem isBoolean_iff {t : Ty} : t.isBoolean = true ↔ t = .boolean := by
  cases t <;> simp [isBoolean]

theorem isNumber_iff {t : Ty} : t.isNumber = true ↔ t = .number := by
  cases t <;> simp [isNumber]

end Ty

/-! ## Signatures -/

/-- What a caller needs to know of a function: the parameter types in order and the type that
comes back. -/
structure Signature where
  params : List Ty
  ret : Ty
  deriving DecidableEq, Repr

namespace Signature

/-- The number of arguments that a call has to pass. -/
def arity (s : Signature) : Nat := s.params.length

/-- The type of the functions with this signature. -/
def toTy (s : Signature) : Ty := .func s.params s.ret

end Signature

namespace Ty

/-- The signature of an arrow; the other types have none. -/
def signature? : Ty → Option Signature
  | .func params ret => some ⟨params, ret⟩
  | _ => none

theorem signature?_eq_some_iff {t : Ty} {s : Signature} :
    t.signature? = some s ↔ t = s.toTy := by
  cases t with
  | boolean => simp [signature?, Signature.toTy]
  | number => simp [signature?, Signature.toTy]
  | func params ret => cases s; simp [signature?, Signature.toTy]

end Ty

end ArrowTyping
