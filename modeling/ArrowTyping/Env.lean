import ArrowTyping.Scope

set_option autoImplicit false

/-!
# Environments

An environment is a chain of scopes, the innermost at the end.  Extending an environment gives a
new one and leaves the old one as it was, so one environment may be the parent of many.  A name
is looked for from the innermost scope outwards.

`Env.bindings` writes the whole chain out as one flat list, outermost scope first;
`lookup?_eq_lookup?_bindings` says that a lookup in the chain is a lookup in that list, so how
bindings are grouped into scopes never matters to a lookup.  It does matter to `Env.depth`,
which counts scopes and also counts those that bind nothing.
-/

namespace ArrowTyping

/-- A chain of scopes. -/
inductive Env where
  /-- The environment that binds nothing. -/
  | empty
  /-- The environment `parent` with `scope` put inside it. -/
  | extend (parent : Env) (scope : Scope)
  deriving DecidableEq, Repr

namespace Env

/-- The type of a name, from the innermost scope that binds it. -/
def lookup? : Env → String → Option Ty
  | empty, _ => none
  | extend parent scope, x => (scope.lookup? x).or (parent.lookup? x)

/-- The number of scopes, where the empty environment counts as one. -/
def depth : Env → Nat
  | empty => 1
  | extend parent _ => parent.depth + 1

/-- All bindings of the chain, those of the outermost scope first. -/
def bindings : Env → Scope
  | empty => []
  | extend parent scope => parent.bindings ++ scope

/-- The environment with one scope after the other put inside it. -/
def extendAll (env : Env) (scopes : List Scope) : Env := scopes.foldl extend env

/-- The environment made of the given scopes, outermost first. -/
def ofScopes (scopes : List Scope) : Env := empty.extendAll scopes

@[simp] theorem lookup?_empty (x : String) : empty.lookup? x = none := rfl

@[simp] theorem lookup?_extend (env : Env) (scope : Scope) (x : String) :
    (env.extend scope).lookup? x = (scope.lookup? x).or (env.lookup? x) := rfl

/-- A name that the new scope binds is not looked for further out. -/
theorem lookup?_extend_of_mem {scope : Scope} {x : String} (h : x ∈ scope.names) (env : Env) :
    (env.extend scope).lookup? x = scope.lookup? x := by
  have hbound : scope.lookup? x ≠ none := fun hnone => Scope.lookup?_eq_none_iff_names.1 hnone h
  obtain ⟨T, hT⟩ := Option.ne_none_iff_exists'.1 hbound
  rw [lookup?_extend, hT, Option.some_or]

/-- A name that the new scope does not bind has the type that it had before. -/
theorem lookup?_extend_of_not_mem {scope : Scope} {x : String} (h : x ∉ scope.names) (env : Env) :
    (env.extend scope).lookup? x = env.lookup? x := by
  rw [lookup?_extend, Scope.lookup?_eq_none_iff_names.2 h, Option.none_or]

/-- In the same new scope a name means the same in two environments if it does outside of it. -/
theorem lookup?_extend_congr {env env' : Env} {scope : Scope} {x : String}
    (h : x ∉ scope.names → env.lookup? x = env'.lookup? x) :
    (env.extend scope).lookup? x = (env'.extend scope).lookup? x := by
  by_cases hbound : x ∈ scope.names
  · rw [lookup?_extend_of_mem hbound, lookup?_extend_of_mem hbound]
  · rw [lookup?_extend_of_not_mem hbound, lookup?_extend_of_not_mem hbound, h hbound]

/-- A lookup in the chain is a lookup in the flat list of its bindings. -/
theorem lookup?_eq_lookup?_bindings (env : Env) (x : String) :
    env.lookup? x = env.bindings.lookup? x := by
  induction env with
  | empty => rfl
  | extend parent scope ih => simp [bindings, ih]

/-- Environments that bind the same names in the same order look every name up alike, however the
bindings are grouped into scopes. -/
theorem lookup?_of_bindings_eq {env env' : Env} (h : env.bindings = env'.bindings) (x : String) :
    env.lookup? x = env'.lookup? x := by
  rw [lookup?_eq_lookup?_bindings, lookup?_eq_lookup?_bindings, h]

@[simp] theorem extendAll_nil (env : Env) : env.extendAll [] = env := rfl

@[simp] theorem extendAll_cons (env : Env) (scope : Scope) (scopes : List Scope) :
    env.extendAll (scope :: scopes) = (env.extend scope).extendAll scopes := rfl

theorem bindings_extendAll (env : Env) (scopes : List Scope) :
    (env.extendAll scopes).bindings = env.bindings ++ scopes.flatten := by
  induction scopes generalizing env with
  | nil => simp
  | cons scope scopes ih => simp [ih, bindings]

theorem depth_extendAll (env : Env) (scopes : List Scope) :
    (env.extendAll scopes).depth = env.depth + scopes.length := by
  induction scopes generalizing env with
  | nil => rfl
  | cons scope scopes ih => simp [ih, depth]; omega

end Env

end ArrowTyping
