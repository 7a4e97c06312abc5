import ArrowTyping.Proofs.Typing.Weakening

set_option autoImplicit false

/-!
# Parameters in groups

The same parameters can be taken all at once by one function, or in groups by functions one inside
the other.  For the body this makes no difference: its environment holds one scope for each group,
but a lookup goes through the same bindings in the same order, and the last one of a name counts in
either case.

The type of the functions does tell the groups.  It lists the parameters as they were written, also
those that a later parameter of the same name hides from the body.
-/

namespace ArrowTyping

open Term

variable {env : Env} {t : Term Span} {e : TypeError} {F : Ty}

/-- Putting scopes one inside the other binds the same as putting all their bindings into one. -/
theorem Env.bindings_extendAll_eq (env : Env) (scopes : List Scope) :
    (env.extendAll scopes).bindings = (env.extend scopes.flatten).bindings := by
  rw [bindings_extendAll, bindings]

/-- Functions one inside the other have a type when the body has one inside all of their scopes. -/
theorem Term.infer_funcs_eq_ok_iff (groups : List (Span × Scope)) :
    (funcs groups t).infer env = .ok F ↔
      ∃ T, t.infer (env.extendAll (groups.map Prod.snd)) = .ok T ∧
        F = Ty.arrows (groups.map Prod.snd) T := by
  induction groups generalizing env F with
  | nil => simp
  | cons g groups ih =>
    simp only [funcs_cons, infer_func_eq_ok_iff, ih, List.map_cons, Env.extendAll_cons,
      Ty.arrows_cons]
    constructor
    · intro h
      obtain ⟨B, ⟨T, hT, rfl⟩, rfl⟩ := h
      exact ⟨T, hT, rfl⟩
    · intro h
      obtain ⟨T, hT, rfl⟩ := h
      exact ⟨_, ⟨T, hT, rfl⟩, rfl⟩

/-- They report what the body reports there. -/
theorem Term.infer_funcs_eq_error_iff (groups : List (Span × Scope)) :
    (funcs groups t).infer env = .error e ↔
      t.infer (env.extendAll (groups.map Prod.snd)) = .error e := by
  induction groups generalizing env with
  | nil => rfl
  | cons g groups ih =>
    rw [funcs_cons, infer_func_eq_error_iff, ih, List.map_cons, Env.extendAll_cons]

/-- Parameters may be cut into groups in any way, with groups that are empty and with names that
are repeated inside a group or in several.  A term is checked in the scopes of the groups as it is
in one scope that holds all parameters; and the functions that take one group after the other
report the error that the term has there or, if it has a type, lead to it through the types of all
parameters, group by group. -/
theorem check_in_parameter_groups (env : Env) (t : Term Span) (groups : List (Span × Scope)) :
    t.check (env.extendAll (groups.map Prod.snd)) =
      t.check (env.extend (groups.map Prod.snd).flatten) ∧
    (∀ e, (funcs groups t).infer env = .error e ↔
      t.check (env.extend (groups.map Prod.snd).flatten) = .error e) ∧
    ∀ F, (funcs groups t).infer env = .ok F ↔
      ∃ T, t.infer (env.extend (groups.map Prod.snd).flatten) = .ok T ∧
        F = Ty.arrows (groups.map Prod.snd) T := by
  have hbindings := env.bindings_extendAll_eq (groups.map Prod.snd)
  refine ⟨check_of_bindings_eq hbindings, ?_, ?_⟩
  · intro e
    rw [infer_funcs_eq_error_iff, infer_of_bindings_eq hbindings, infer_eq_error_iff]
  · intro F
    rw [infer_funcs_eq_ok_iff, infer_of_bindings_eq hbindings]

-- The function `(x: number, x: boolean) => () => (x: number) => x`.
example : (funcs [(.synthetic, [⟨"x", .number⟩, ⟨"x", .boolean⟩]), (.synthetic, []),
      (.synthetic, [⟨"x", .number⟩])] (.var .synthetic "x")).infer .empty =
    .ok (.func [.number, .boolean] (.func [] (.func [.number] .number))) := rfl

end ArrowTyping
