import ArrowTyping.Proofs.Typing.Weakening
import Mathlib.Data.List.Forall2

set_option autoImplicit false

/-!
# Declaring constants and passing arguments

A term can be given names for some values in two ways: the values are declared as constants before
it, one after the other, or the term is made a function of these names that is called with the
values at once.  The constants put one scope of one name inside the other, and each value is
checked inside the scopes of those before it.  The call checks all values outside and puts all
names into one scope.

If no value uses the name of a constant declared before it, both ways come to the same: the term is
checked as if the environment bound all the names, in this order, to the types of the values.
-/

namespace ArrowTyping

open Term

/-- In the environment `env` the declaration gives its name the type that the binding does. -/
def Declares (env : Env) (d : Decl Span) (b : Binding) : Prop :=
  d.name = b.name ∧ d.value.infer env = .ok b.ty

variable {env env' : Env} {decls : List (Decl Span)} {params : Scope} {r : Term Span}

/-- In another environment where the values have the same results, the same names are declared. -/
theorem declares_congr (h : List.Forall₂ (Declares env) decls params)
    (hsame : ∀ d ∈ decls, d.value.infer env' = d.value.infer env) :
    List.Forall₂ (Declares env') decls params := by
  induction h with
  | nil => exact .nil
  | @cons d b decls params hd _ ih =>
    obtain ⟨hname, hvalue⟩ := hd
    have hvalue' : d.value.infer env' = .ok b.ty := (hsame d List.mem_cons_self).trans hvalue
    exact .cons ⟨hname, hvalue'⟩ (ih fun d' hd' => hsame d' (List.mem_cons_of_mem d hd'))

/-- Constants whose values do not use the names before them bind these names all at once. -/
theorem Term.infer_consts (h : List.Forall₂ (Declares env) decls params)
    (hfresh : decls.Pairwise fun d d' => d.name ∉ d'.value.freeNames) :
    (consts decls r).infer env = r.infer (env.extend params) := by
  -- The environment grows with every constant, and the values are checked again where it has.
  induction decls generalizing env params with
  | nil =>
    obtain rfl : params = [] := List.forall₂_nil_left_iff.1 h
    exact infer_of_bindings_eq (by simp [Env.bindings])
  | cons d decls ih =>
    obtain ⟨⟨name, T⟩, params, ⟨hname, hvalue⟩, hrest, rfl⟩ := List.forall₂_cons_left_iff.1 h
    obtain ⟨hunused, hfresh⟩ := List.pairwise_cons.1 hfresh
    have hsame : ∀ d' ∈ decls,
        d'.value.infer (env.extend [⟨d.name, T⟩]) = d'.value.infer env := by
      intro d' hd'
      exact infer_extend_of_not_mem_freeNames (hunused d' hd') T
    have hscopes : ((env.extend [⟨d.name, T⟩]).extend params).bindings =
        (env.extend (⟨name, T⟩ :: params)).bindings := by
      simp only at hname
      simp [Env.bindings, hname]
    calc (consts (d :: decls) r).infer env
        = (consts decls r).infer (env.extend [⟨d.name, T⟩]) := by
          rw [consts_cons, infer_const, hvalue]
          rfl
      _ = r.infer ((env.extend [⟨d.name, T⟩]).extend params) :=
          ih (declares_congr hrest hsame) hfresh
      _ = r.infer (env.extend (⟨name, T⟩ :: params)) := infer_of_bindings_eq hscopes

/-- Values have the types of the names that they are declared with. -/
theorem passes_of_declares (h : List.Forall₂ (Declares env) decls params) :
    Passes env (decls.map Decl.value) params.types := by
  induction h with
  | nil => exact passes_nil_args
  | cons hd _ ih => exact passes_cons_iff.2 ⟨hd.2, ih⟩

/-- A function that is called at once binds its parameters to the types of the arguments. -/
theorem Term.infer_call_func (h : List.Forall₂ (Declares env) decls params) (span span' : Span) :
    (call span (func span' params r) (decls.map Decl.value)).infer env =
      r.infer (env.extend params) := by
  cases hr : r.infer (env.extend params) with
  | ok T =>
    have hcallee : (func span' params r).infer env = .ok (.func params.types T) :=
      infer_func_eq_ok_iff.2 ⟨T, hr, rfl⟩
    have harity : (decls.map Decl.value).length = params.types.length := by
      rw [List.length_map, h.length_eq, Scope.types, List.length_map]
    exact infer_call_eq_ok_iff.2 ⟨params.types, hcallee, harity, passes_of_declares h⟩
  | error e =>
    have hcallee : (func span' params r).infer env = .error e := infer_func_eq_error_iff.2 hr
    exact infer_call_eq_error_iff.2 (.inl hcallee)

/-- Declaring constants before a term and calling the function that has the term as its body give
the type or the error that the term has when the environment binds the names to the types of the
values.  Names may be repeated; but no value may use a name that is declared before it. -/
theorem infer_consts_eq_infer_call (h : List.Forall₂ (Declares env) decls params)
    (hfresh : decls.Pairwise fun d d' => d.name ∉ d'.value.freeNames) :
    (consts decls r).infer env = r.infer (env.extend params) ∧
    ∀ span span', (call span (func span' params r) (decls.map Decl.value)).infer env =
      r.infer (env.extend params) :=
  ⟨infer_consts h hfresh, infer_call_func h⟩

/-- The declarations `const x = 1; const x = b;`. -/
def repeatedDecls : List (Decl Span) :=
  [⟨.synthetic, "x", .number .synthetic 1⟩, ⟨.synthetic, "x", .var .synthetic "b"⟩]

/-- The sum `x + 1`, where `x` is read from offset 5 of the file `f`. -/
def sumOfX : Term Span :=
  .add .synthetic (.var (.within "f" 5 6) "x") (.number .synthetic 1)

/-- Of two declarations of one name the second one counts, in a row and in a list of parameters. -/
theorem infer_consts_eq_infer_call_repeatedDecls :
    (consts repeatedDecls sumOfX).infer (.ofScopes [[⟨"b", .boolean⟩]]) =
      .error ⟨.operandNotNumber .left .boolean, ⟨5, "f"⟩⟩ ∧
    (call .synthetic (func .synthetic [⟨"x", .number⟩, ⟨"x", .boolean⟩] sumOfX)
      (repeatedDecls.map Decl.value)).infer (.ofScopes [[⟨"b", .boolean⟩]]) =
        .error ⟨.operandNotNumber .left .boolean, ⟨5, "f"⟩⟩ := by
  have hdecls : List.Forall₂ (Declares (.ofScopes [[⟨"b", .boolean⟩]])) repeatedDecls
      [⟨"x", .number⟩, ⟨"x", .boolean⟩] :=
    .cons ⟨rfl, rfl⟩ (.cons ⟨rfl, rfl⟩ .nil)
  have hfresh : repeatedDecls.Pairwise fun d d' => d.name ∉ d'.value.freeNames := by
    simp [repeatedDecls, freeNames]
  obtain ⟨hconsts, hcall⟩ := infer_consts_eq_infer_call (r := sumOfX) hdecls hfresh
  exact ⟨hconsts, hcall .synthetic .synthetic⟩

end ArrowTyping
