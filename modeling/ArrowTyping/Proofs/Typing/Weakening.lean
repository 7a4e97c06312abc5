import ArrowTyping.Proofs.Typing.Resolution
import ArrowTyping.Proofs.Typing.TwoRuns

set_option autoImplicit false

/-!
# Only the free names of a term matter

A term is checked in an environment that may bind many names, but checking asks only for those
that the term uses free.  When a second environment gives all of these the types that the first
one gives them, and perhaps binds more, the second check can differ from the first one in one way:
the first one misses a name that the second environment has gained.  The two checks are coupled
(`coupling_weakened`): below a binder both environments grow by the same scope, and what is gained
there was gained outside.  So checks that succeed and checks that stop early are covered at once
(`coupled_check_of_keeps`).

If the environments agree on the free names there is nothing to gain, and the results are the same
(`check_congr`).
-/

namespace ArrowTyping

open Term

/-! ## Environments that keep some names and gain others -/

namespace Env

variable {env env' : Env} {names outer : List String} {scope? : Option Scope} {x : String}

/-- Whichever of the names have a type in `env` have the same type in `env'`. -/
def Keeps (env env' : Env) (names : List String) : Prop :=
  ∀ x ∈ names, ∀ T, env.lookup? x = some T → env'.lookup? x = some T

/-- The name is bound in `env'` but not in `env`. -/
def Gains (env env' : Env) (x : String) : Prop := env.lookup? x = none ∧ env'.lookup? x ≠ none

/-- In the same new scope on both sides, only the names that it does not bind need to be kept
outside. -/
theorem Keeps.enter (h : env.Keeps env' outer)
    (hsub : ∀ x ∈ names, (∀ scope ∈ scope?, x ∉ scope.names) → x ∈ outer) :
    (env.enter scope?).Keeps (env'.enter scope?) names := by
  intro x hx T hT
  cases scope? with
  | none => exact h x (hsub x hx (by simp)) T hT
  | some scope =>
    rw [Env.enter] at hT ⊢
    by_cases hbound : x ∈ scope.names
    · rw [lookup?_extend_of_mem hbound] at hT ⊢
      exact hT
    · rw [lookup?_extend_of_not_mem hbound] at hT ⊢
      exact h x (hsub x hx (by simpa using hbound)) T hT

/-- What is gained inside the same new scope was gained outside. -/
theorem Gains.of_enter (h : (env.enter scope?).Gains (env'.enter scope?) x) : env.Gains env' x := by
  cases scope? with
  | none => exact h
  | some scope =>
    obtain ⟨hnone, hsome⟩ := h
    rw [Env.enter, lookup?_extend, Option.or_eq_none_iff] at hnone
    rw [Env.enter, lookup?_extend, hnone.1, Option.none_or] at hsome
    exact ⟨hnone.2, hsome⟩

end Env

/-! ## Checking in both environments -/

/-- One term in two environments.  The second one keeps the types of the free names of the term, and
what it binds besides the first one is among the names `gained`. -/
structure Weakened (gained : String → Prop) (env env' : Env) (t t' : Term Span) : Prop where
  same : t = t'
  keeps : env.Keeps env' t.freeNames
  gains : ∀ x, env.Gains env' x → gained x

theorem coupling_weakened (gained : String → Prop) :
    Coupling id id id gained Eq (Weakened gained) where
  alike rel := congrArg (relabel id id id) rel.same
  start rel := by rw [rel.same]
  stop rel := by rw [rel.same]
  kept := by
    intro env env' span span' x x' rel T bound
    obtain ⟨-, rfl⟩ := var.inj rel.same
    exact rel.keeps x (by simp [freeNames]) T bound
  lost := by
    intro env env' span span' x x' rel unbound
    obtain ⟨-, rfl⟩ := var.inj rel.same
    by_cases hbound : env'.lookup? x = none
    · exact .inr ⟨rfl, hbound⟩
    · exact .inl (rel.gains x ⟨unbound, hbound⟩)
  child := by
    intro env env' t t' s s' rel step hs hs' T
    obtain ⟨rfl, hkeeps, hgains⟩ := rel
    obtain rfl : s = s' := Option.some.inj (hs.symm.trans hs')
    refine ⟨rfl, hkeeps.enter fun x hx hnode => ?_, fun x hx => hgains x hx.of_enter⟩
    exact mem_freeNames_of_child hs ((binds?_eq_none_iff T).2 hnode) hx

namespace Term

variable {env env' : Env} {t : Term Span}

/-- In an environment that keeps the free names of a term, checking the term gives the same result,
unless a name is missing that is gained. -/
theorem coupled_check_of_keeps (h : env.Keeps env' t.freeNames) :
    Coupled (env.Gains env') Eq Eq (t.check env) (t.check env') := by
  have hchecks : Coupled (env.Gains env') Eq (AlikeTyped id id id) (t.check env) (t.check env') :=
    (coupling_weakened (env.Gains env')).check ⟨rfl, h, fun _ hx => hx⟩
  refine hchecks.mono fun y y' hy => ?_
  -- Nothing is forgotten of either tree.
  have hsame : Alike id id id y y' := hy.forget (fun note => (⟨note.1, note.2⟩ : Typed)) id id
  rwa [Alike, relabel_id, relabel_id] at hsame

/-- A name that is reported as unbound is one of the free names, and the environment does not
bind it. -/
theorem mem_freeNames_of_unbound {x : String} {place : Position}
    (h : t.check env = .error ⟨.unbound x, place⟩) :
    x ∈ t.freeNames ∧ env.lookup? x = none := by
  obtain ⟨path, span, hvar, hfree, -, hunbound⟩ :=
    exists_free_of_unbound (infer_eq_error_iff.2 h)
  exact ⟨mem_freeNames_iff.2 ⟨path, ⟨span, hvar⟩, hfree⟩, hunbound⟩

/-- Environments that agree on the free names of a term give it the same result. -/
theorem check_congr (h : ∀ x ∈ t.freeNames, env.lookup? x = env'.lookup? x) :
    t.check env = t.check env' := by
  have hkeeps : env.Keeps env' t.freeNames := fun x hx T hT => (h x hx).symm.trans hT
  have hchecks : Coupled (env.Gains env') Eq Eq (t.check env) (t.check env') :=
    coupled_check_of_keeps hkeeps
  cases hr : t.check env with
  | ok y => exact (hchecks.eq_of_ok hr).symm
  | error e =>
    refine (hchecks.eq_of_error hr fun x hx hgained => ?_).symm
    obtain ⟨violation, place⟩ := e
    cases hx
    exact hgained.2 (h x (mem_freeNames_of_unbound hr).1 ▸ hgained.1)

/-- The type of a term and its error depend on its free names only, too. -/
theorem infer_congr (h : ∀ x ∈ t.freeNames, env.lookup? x = env'.lookup? x) :
    t.infer env = t.infer env' := by
  cases hr : t.infer env' with
  | ok T =>
    obtain ⟨y, hy, hT⟩ := infer_eq_ok_iff.1 hr
    exact infer_eq_ok_iff.2 ⟨y, (check_congr h).trans hy, hT⟩
  | error e =>
    have he : t.check env' = .error e := infer_eq_error_iff.1 hr
    exact infer_eq_error_iff.2 ((check_congr h).trans he)

/-- A scope that binds none of the free names of a term does not show in its result. -/
theorem infer_extend_of_unused {scope : Scope} (h : ∀ x ∈ t.freeNames, x ∉ scope.names) :
    t.infer (env.extend scope) = t.infer env :=
  infer_congr fun x hx => Env.lookup?_extend_of_not_mem (h x hx) env

theorem infer_extend_of_not_mem_freeNames {x : String} (h : x ∉ t.freeNames) (T : Ty) :
    t.infer (env.extend [⟨x, T⟩]) = t.infer env :=
  infer_extend_of_unused fun _ hy hbound => h (Scope.mem_names_singleton.1 hbound ▸ hy)

/-- How bindings are grouped into scopes does not matter. -/
theorem check_of_bindings_eq (h : env.bindings = env'.bindings) : t.check env = t.check env' :=
  check_congr fun x _ => Env.lookup?_of_bindings_eq h x

theorem infer_of_bindings_eq (h : env.bindings = env'.bindings) : t.infer env = t.infer env' :=
  infer_congr fun x _ => Env.lookup?_of_bindings_eq h x

end Term

/-! ## Weakening -/

/-- When a second environment keeps the types of the free names of a term, a successful check gives
the same tree there, and an error stays the same error unless it misses a name that the second
environment binds.  When both environments agree on the free names, the results are the same. -/
theorem check_preserved_of_kept_freeNames (env env' : Env) (t : Term Span)
    (h : ∀ x ∈ t.freeNames, ∀ T, env.lookup? x = some T → env'.lookup? x = some T) :
    (∀ y, t.check env = .ok y → t.check env' = .ok y) ∧
    (∀ e, t.check env = .error e → (∀ x, e.violation ≠ .unbound x) → t.check env' = .error e) ∧
    (∀ x position, t.check env = .error ⟨.unbound x, position⟩ → env'.lookup? x = none →
      t.check env' = .error ⟨.unbound x, position⟩) ∧
    ((∀ x ∈ t.freeNames, env.lookup? x = env'.lookup? x) → t.check env = t.check env') := by
  have hchecks : Coupled (env.Gains env') Eq Eq (t.check env) (t.check env') :=
    coupled_check_of_keeps h
  refine ⟨?_, ?_, ?_, Term.check_congr⟩
  · intro y hy
    exact hchecks.eq_of_ok hy
  · intro e he hother
    exact hchecks.eq_of_error he fun x hx => absurd hx (hother x)
  · intro x position he hmissing
    refine hchecks.eq_of_error he fun z hz hgained => ?_
    cases hz
    exact hgained.2 hmissing

/-- The program `(a + 1); (true + b)`, whose second sum is read from offset 8 of the file `f`. -/
def openProgram : Term Span :=
  .seq .synthetic (.add .synthetic (.var .synthetic "a") (.number .synthetic 1))
    (.add .synthetic (.bool (.within "f" 8 12) true) (.var .synthetic "b"))

/-- Its first violation stays the same when `b` is bound besides `a`, in whatever scopes. -/
theorem openProgram_preserved :
    openProgram.check (.ofScopes [[⟨"a", .number⟩]]) =
      .error ⟨.operandNotNumber .left .boolean, ⟨8, "f"⟩⟩ ∧
    openProgram.check (.ofScopes [[⟨"b", .number⟩], [⟨"a", .boolean⟩, ⟨"a", .number⟩], []]) =
      .error ⟨.operandNotNumber .left .boolean, ⟨8, "f"⟩⟩ := by
  have hkept : ∀ x ∈ openProgram.freeNames, ∀ T,
      (Env.ofScopes [[⟨"a", .number⟩]]).lookup? x = some T →
        (Env.ofScopes [[⟨"b", .number⟩], [⟨"a", .boolean⟩, ⟨"a", .number⟩], []]).lookup? x =
          some T := by
    intro x hx T hT
    obtain rfl | rfl : x = "a" ∨ x = "b" := by simpa [openProgram, Term.freeNames] using hx
    · exact hT
    · cases hT
  refine ⟨rfl, ?_⟩
  exact (check_preserved_of_kept_freeNames _ _ openProgram hkept).2.1 _ rfl (by simp)

end ArrowTyping
