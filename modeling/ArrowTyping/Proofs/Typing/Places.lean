import ArrowTyping.Proofs.Typing.CheckedTree
import ArrowTyping.Proofs.Typing.TwoRuns

set_option autoImplicit false

/-!
# Places and numbers decide nothing

Two terms with the same skeleton are equal except for the places of their nodes and the values of
their numbers.  Checking carries both along and puts a place into an error, but it never looks at
them.  So the two checks take the same steps, and they end with the same types or with the same
violation.

The places in the errors may be different ones, but they are corresponding ones: there is one path
and one end of a span that lead to both (`SamePlace`).  On the way down it is enough to know that
the two runs stand at the same path in their terms (`coupling_inStep`).
-/

namespace ArrowTyping

open Term

/-! ## Corresponding places -/

/-- One of the two ends of a span. -/
inductive Span.End where
  | start
  | stop

/-- The position at one end of a span. -/
def Span.position (span : Span) : Span.End → Position
  | .start => span.start
  | .stop => span.stop

/-- The position at one end of the node that a path leads to. -/
def Term.position? (t : Term Span) (path : Path) (side : Span.End) : Option Position :=
  (t.subterm? path).map fun s => s.span.position side

/-- One path and one end lead to `p` in the one term and to `p'` in the other. -/
def SamePlace (t t' : Term Span) (p p' : Position) : Prop :=
  ∃ path side, t.position? path side = some p ∧ t'.position? path side = some p'

/-! ## Both checks -/

/-- The two runs stand at the same node of their programs, in the same environment. -/
structure InStep (program program' : Term Span) (env env' : Env) (t t' : Term Span) : Prop where
  env_eq : env = env'
  skeleton : Alike (fun _ => ()) id (fun _ => 0) t t'
  path : ∃ path, program.subterm? path = some t ∧ program'.subterm? path = some t'

section Steps

variable {program program' t t' s s' : Term Span} {env env' : Env} {span span' : Span}
  {x x' : String}

/-- The ends of the two nodes are corresponding places. -/
theorem InStep.samePlace (h : InStep program program' env env' t t') (side : Span.End) :
    SamePlace program program' (t.span.position side) (t'.span.position side) := by
  obtain ⟨path, ht, ht'⟩ := h.path
  refine ⟨path, side, ?_, ?_⟩
  · rw [position?, ht, Option.map_some]
  · rw [position?, ht', Option.map_some]

/-- The same name is looked up in both runs. -/
theorem InStep.lookup?_eq (h : InStep program program' env env' (.var span x) (.var span' x')) :
    x = x' ∧ env.lookup? x = env'.lookup? x' := by
  obtain rfl : env = env' := h.env_eq
  obtain rfl : x = x' := (var.inj h.skeleton).2
  exact ⟨rfl, rfl⟩

/-- Both runs go on to corresponding children, and since the environments only take up names and
types, they stay the same. -/
theorem InStep.child (h : InStep program program' env env' t t') (step : Step)
    (hs : t.child? step = some s) (hs' : t'.child? step = some s') (T : Ty) :
    InStep program program' (env.enter (t.scopeBelow? step T)) (env'.enter (t'.scopeBelow? step T))
      s s' := by
  have hscope : t.scopeBelow? step T = t'.scopeBelow? step T := by
    simpa using h.skeleton.scopeBelow?_eq step T
  obtain ⟨path, ht, ht'⟩ := h.path
  refine ⟨by rw [h.env_eq, hscope], h.skeleton.child hs hs', path ++ [step], ?_, ?_⟩
  · simp [subterm?_append, ht, hs]
  · simp [subterm?_append, ht', hs']

end Steps

theorem coupling_inStep (program program' : Term Span) :
    Coupling (fun _ => ()) id (fun _ => 0) (fun _ => False) (SamePlace program program')
      (InStep program program') where
  alike rel := rel.skeleton
  start rel := rel.samePlace .start
  stop rel := rel.samePlace .stop
  kept rel T bound := by rw [← rel.lookup?_eq.2, bound]
  lost rel unbound := .inr ⟨rel.lookup?_eq.1, by rw [← rel.lookup?_eq.2, unbound]⟩
  child := InStep.child

/-! ## Places and numbers decide nothing -/

/-- Terms that are equal except for places and numbers are checked with trees that carry the places
and numbers of their own term and the same types, or with the same violation.  In the latter case
there are one path and one end such that each error is reported at this end of the node that the
path leads to in its own term. -/
theorem check_of_skeleton_eq {t t' : Term Span} (h : t.skeleton = t'.skeleton) (env : Env) :
    (∃ y y', t.check env = .ok y ∧ t'.check env = .ok y' ∧ y.erase = t ∧ y'.erase = t' ∧
      (y.map Typed.ty).blankNumbers = (y'.map Typed.ty).blankNumbers ∧
      ∀ path, (y.subterm? path).map ty = (y'.subterm? path).map ty) ∨
    ∃ violation p p' path side, t.check env = .error ⟨violation, p⟩ ∧
      t'.check env = .error ⟨violation, p'⟩ ∧ t.position? path side = some p ∧
      t'.position? path side = some p' := by
  have hskeleton : Alike (fun _ => ()) id (fun _ => 0) t t' := by
    rwa [Alike, ← skeleton_eq_relabel, ← skeleton_eq_relabel]
  have hroots : InStep t t' env env t t' :=
    ⟨rfl, hskeleton, [], subterm?_nil t, subterm?_nil t'⟩
  have hchecks := (coupling_inStep t t').check hroots
  rcases hchecks.error_or_ok fun _ => id with
    ⟨violation, p, p', hp, hp', path, side, hplaces⟩ | ⟨y, y', hy, hy', htyped⟩
  · exact .inr ⟨violation, p, p', path, side, hp, hp', hplaces⟩
  · have hblank : (y.map Typed.ty).blankNumbers = (y'.map Typed.ty).blankNumbers := by
      rw [map, map, blankNumbers, blankNumbers, relabel_relabel, relabel_relabel]
      exact htyped.forget Prod.snd id id
    exact .inl ⟨y, y', hy, hy', erase_of_check hy, erase_of_check hy', hblank,
      htyped.ty_subterm?_eq⟩

/-- The call `(() => 1)(n)` of a function that takes no arguments. -/
def surplusCall (span : Span) (n : Float) : Term Span :=
  .call .synthetic (.func .synthetic [] (.number .synthetic 1)) [.number span n]

/-- The argument is reported where it starts, be it a stretch that ends before it starts or one that
ends in another file. -/
theorem check_of_skeleton_eq_surplusCall :
    (surplusCall (.within "f" 40 20) 2).check .empty = .error ⟨.wrongArity 0 1, ⟨40, "f"⟩⟩ ∧
    (surplusCall ⟨⟨7, "g"⟩, ⟨9, "h"⟩⟩ 3).check .empty = .error ⟨.wrongArity 0 1, ⟨7, "g"⟩⟩ ∧
    ∃ path side,
      (surplusCall (.within "f" 40 20) 2).position? path side = some ⟨40, "f"⟩ ∧
      (surplusCall ⟨⟨7, "g"⟩, ⟨9, "h"⟩⟩ 3).position? path side = some ⟨7, "g"⟩ := by
  refine ⟨rfl, rfl, ?_⟩
  have hskeleton : (surplusCall (.within "f" 40 20) 2).skeleton =
      (surplusCall ⟨⟨7, "g"⟩, ⟨9, "h"⟩⟩ 3).skeleton := by
    simp only [surplusCall, skeleton_eq_relabel, relabel, relabelAll]
  rcases check_of_skeleton_eq hskeleton .empty with
    ⟨y, y', hy, -⟩ | ⟨violation, p, p', path, side, hp, hp', hplaces⟩
  · cases hy
  · cases hp
    cases hp'
    exact ⟨path, side, hplaces⟩

end ArrowTyping
