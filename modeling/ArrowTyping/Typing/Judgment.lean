import ArrowTyping.Term.Basic

set_option autoImplicit false

/-!
# The typing judgment

`HasType Γ t T` says that the term `t` has the type `T` where the names have the types that `Γ`
gives them.  It is the language's type system, one rule for each kind of node, without an order
in which children are looked at and without errors.

`Γ` is a flat finite map: a list of bindings of which the last one of a name counts.  A function
puts its parameters behind those of `Γ`, so they override it, and the last of several parameters
of one name overrides the others.  A constant puts its name behind `Γ` for the rest, but not for
its own value.  No rule leaves a choice, so a term has at most one type (`HasType.unique`).
-/

namespace ArrowTyping

variable {α : Type}

/-- The term `t` has the type `T` in the context `Γ`. -/
inductive HasType : (Γ : Scope) → (t : Term α) → (T : Ty) → Prop where
  | bool {Γ note value} : HasType Γ (.bool note value) .boolean
  | number {Γ note value} : HasType Γ (.number note value) .number
  | add {Γ note left right} (left_ty : HasType Γ left .number)
    (right_ty : HasType Γ right .number) : HasType Γ (.add note left right) .number
  | ifElse {Γ note test yes no T} (test_ty : HasType Γ test .boolean) (yes_ty : HasType Γ yes T)
    (no_ty : HasType Γ no T) : HasType Γ (.ifElse note test yes no) T
  | var {Γ note name T} (bound : Γ.LastBinds name T) : HasType Γ (.var note name) T
  | func {Γ note params body T} (body_ty : HasType (Γ ++ params) body T) :
    HasType Γ (.func note params body) (.func params.types T)
  | call {Γ note callee args params T} (callee_ty : HasType Γ callee (.func params T))
    (arity : args.length = params.length)
    (args_ty : ∀ (i : Nat) (arg : Term α) (param : Ty), args[i]? = some arg →
      params[i]? = some param → HasType Γ arg param) :
    HasType Γ (.call note callee args) T
  | seq {Γ note first rest S T} (first_ty : HasType Γ first S) (rest_ty : HasType Γ rest T) :
    HasType Γ (.seq note first rest) T
  | const {Γ note name value rest S T} (value_ty : HasType Γ value S)
    (rest_ty : HasType (Γ ++ [⟨name, S⟩]) rest T) : HasType Γ (.const note name value rest) T

/-- In a flat map a name has at most one type. -/
theorem Scope.LastBinds.unique {s : Scope} {x : String} {T T' : Ty} (h : s.LastBinds x T)
    (h' : s.LastBinds x T') : T = T' :=
  Option.some.inj ((Scope.lookup?_eq_some_iff.2 h).symm.trans (Scope.lookup?_eq_some_iff.2 h'))

/-- A term has at most one type. -/
theorem HasType.unique {Γ : Scope} {t : Term α} {T T' : Ty} (h : HasType Γ t T)
    (h' : HasType Γ t T') : T = T' := by
  induction h generalizing T' with
  | bool => cases h'; rfl
  | number => cases h'; rfl
  | add => cases h'; rfl
  | ifElse _ _ _ _ ih _ => cases h' with | ifElse _ yes_ty _ => exact ih yes_ty
  | var bound => cases h' with | var bound' => exact bound.unique bound'
  | func _ ih => cases h' with | func body_ty => rw [ih body_ty]
  | call _ _ _ ih _ => cases h' with | call callee_ty _ _ => exact (Ty.func.inj (ih callee_ty)).2
  | seq _ _ _ ih => cases h' with | seq _ rest_ty => exact ih rest_ty
  | const _ _ ihv ih =>
    cases h' with
    | const value_ty rest_ty =>
      cases ihv value_ty
      exact ih rest_ty

end ArrowTyping
