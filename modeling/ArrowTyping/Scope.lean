import ArrowTyping.Ty.Basic

set_option autoImplicit false

/-!
# Bindings and scopes

A `Binding` gives a name its type and a `Scope` is a list of bindings in the order in which they
were written.  A name may occur more than once; the last binding of a name is the one that
counts.  Since joining two scopes puts the second one last, `lookup?_append` says that the
second one shadows the first, and a scope doubles as a flat finite map from names to types.
-/

namespace ArrowTyping

/-- A name together with its type. -/
structure Binding where
  name : String
  ty : Ty
  deriving DecidableEq, Repr

/-- Bindings in the order in which they were written. -/
abbrev Scope := List Binding

namespace Scope

/-- The names that a scope binds, in order, with repetitions. -/
def names (s : Scope) : List String := s.map Binding.name

/-- The types that a scope mentions, in order, also those of bindings that a later one
overrides. -/
def types (s : Scope) : List Ty := s.map Binding.ty

@[simp] theorem mem_names_singleton {x y : String} {t : Ty} : x ∈ names [⟨y, t⟩] ↔ x = y := by
  simp [names]

/-- The type of a name: that of its last binding. -/
def lookup? : Scope → String → Option Ty
  | [], _ => none
  | b :: s, x => (lookup? s x).or (if b.name = x then some b.ty else none)

/-- The last binding of `x` in the scope gives it the type `t`. -/
def LastBinds (s : Scope) (x : String) (t : Ty) : Prop :=
  ∃ before after : Scope, s = before ++ ⟨x, t⟩ :: after ∧ ∀ b ∈ after, b.name ≠ x

@[simp] theorem lookup?_nil (x : String) : lookup? [] x = none := rfl

@[simp] theorem lookup?_cons (b : Binding) (s : Scope) (x : String) :
    lookup? (b :: s) x = (lookup? s x).or (if b.name = x then some b.ty else none) := rfl

/-- In two scopes one after the other, the second one shadows the first. -/
@[simp] theorem lookup?_append (s s' : Scope) (x : String) :
    lookup? (s ++ s') x = (lookup? s' x).or (lookup? s x) := by
  induction s with
  | nil => simp
  | cons b s ih => rw [List.cons_append, lookup?_cons, lookup?_cons, ih, Option.or_assoc]

theorem lookup?_eq_none_iff {s : Scope} {x : String} :
    lookup? s x = none ↔ ∀ b ∈ s, b.name ≠ x := by
  induction s with
  | nil => simp
  | cons b s ih => simp [Option.or_eq_none_iff, ih, and_comm]

theorem lookup?_eq_none_iff_names {s : Scope} {x : String} :
    lookup? s x = none ↔ x ∉ s.names := by
  simp [lookup?_eq_none_iff, names]

/-- Looking a name up finds its last binding. -/
theorem lookup?_eq_some_iff {s : Scope} {x : String} {t : Ty} :
    lookup? s x = some t ↔ LastBinds s x t := by
  constructor
  · intro h
    induction s with
    | nil => simp at h
    | cons b s ih =>
      rw [lookup?_cons, Option.or_eq_some_iff] at h
      rcases h with h | ⟨hnone, h⟩
      · obtain ⟨before, after, rfl, hafter⟩ := ih h
        exact ⟨b :: before, after, rfl, hafter⟩
      · split at h
        · next hname =>
          refine ⟨[], s, ?_, lookup?_eq_none_iff.1 hnone⟩
          cases b
          simp_all
        · simp at h
  · rintro ⟨before, after, rfl, hafter⟩
    simp [lookup?_eq_none_iff.2 hafter]

end Scope

end ArrowTyping
