import ArrowTyping.Proofs.Typing.Inversion
import ArrowTyping.Typing.Judgment

set_option autoImplicit false

/-!
# Inference decides the typing judgment

`HasType` is the type system: rules over a flat map, without an order of evaluation and without
errors.  `infer` is a walk over the term with a chain of scopes that stops at the first error.
This module shows that they agree: a walk that ends well is a derivation (`hasType_of_infer`),
every derivation is found by the walk (`HasType.infer_eq_ok`), and the map that belongs to a chain
of scopes is the list of its bindings, outermost first.

Both directions keep the chain arbitrary, because functions and constants extend it on the way
down.  The list of bindings of an extended chain is the old list with the new scope behind it, and
that is how the judgment extends its map.
-/

namespace ArrowTyping

open Term

/-- A chain of scopes gives a name the type of its last binding in the flat list. -/
theorem Env.lookup?_eq_some_iff_lastBinds {env : Env} {x : String} {T : Ty} :
    env.lookup? x = some T ↔ env.bindings.LastBinds x T := by
  rw [lookup?_eq_lookup?_bindings, Scope.lookup?_eq_some_iff]

/-! ## From a walk to a derivation -/

/-- A type that is inferred can be derived. -/
theorem hasType_of_infer {env : Env} {t : Term Span} {T : Ty} (h : t.infer env = .ok T) :
    HasType env.bindings t T := by
  -- The induction is on the term; the chain grows below a function and below a constant.
  induction t generalizing env T with
  | bool span value =>
    cases h
    exact .bool
  | number span value =>
    cases h
    exact .number
  | add span left right ihl ihr =>
    obtain ⟨hleft, hright, rfl⟩ := infer_add_eq_ok_iff.1 h
    exact .add (ihl hleft) (ihr hright)
  | ifElse span test yes no iht ihy ihn =>
    obtain ⟨htest, hyes, hno⟩ := infer_ifElse_eq_ok_iff.1 h
    exact .ifElse (iht htest) (ihy hyes) (ihn hno)
  | var span name =>
    have hbound : env.lookup? name = some T := infer_var_eq_ok_iff.1 h
    exact .var (Env.lookup?_eq_some_iff_lastBinds.1 hbound)
  | func span params body ih =>
    obtain ⟨B, hbody, rfl⟩ := infer_func_eq_ok_iff.1 h
    exact .func (ih hbody)
  | call span callee args ihc ihs =>
    obtain ⟨params, hcallee, harity, hargs⟩ := infer_call_eq_ok_iff.1 h
    refine .call (ihc hcallee) harity ?_
    intro i arg param harg hparam
    exact ihs arg (List.mem_of_getElem? harg) (hargs i arg param harg hparam)
  | seq span first rest ihf ihr =>
    obtain ⟨⟨S, hfirst⟩, hrest⟩ := infer_seq_eq_ok_iff.1 h
    exact .seq (ihf hfirst) (ihr hrest)
  | const span name value rest ihv ihr =>
    obtain ⟨S, hvalue, hrest⟩ := infer_const_eq_ok_iff.1 h
    exact .const (ihv hvalue) (ihr hrest)

/-! ## From a derivation to a walk -/

/-- A type that can be derived is inferred, in every chain of scopes that stands for the map of
the derivation. -/
theorem HasType.infer_eq_ok {Γ : Scope} {t : Term Span} {T : Ty} (h : HasType Γ t T) {env : Env}
    (henv : env.bindings = Γ) : t.infer env = .ok T := by
  -- The induction is on the derivation, so the map is the one that its rules extend.
  induction h generalizing env with
  | bool => rfl
  | number => rfl
  | add _ _ ihl ihr => exact infer_add_eq_ok_iff.2 ⟨ihl henv, ihr henv, rfl⟩
  | ifElse _ _ _ iht ihy ihn => exact infer_ifElse_eq_ok_iff.2 ⟨iht henv, ihy henv, ihn henv⟩
  | var bound =>
    subst henv
    exact infer_var_eq_ok_iff.2 (Env.lookup?_eq_some_iff_lastBinds.2 bound)
  | @func Γ span params body T _ ih =>
    have hparams : (env.extend params).bindings = Γ ++ params := by rw [Env.bindings, henv]
    exact infer_func_eq_ok_iff.2 ⟨T, ih hparams, rfl⟩
  | call _ harity _ ihc ihs =>
    refine infer_call_eq_ok_iff.2 ⟨_, ihc henv, harity, ?_⟩
    intro i arg param harg hparam
    exact ihs i arg param harg hparam henv
  | seq _ _ ihf ihr => exact infer_seq_eq_ok_iff.2 ⟨⟨_, ihf henv⟩, ihr henv⟩
  | @const Γ span name value rest S T _ _ ihv ihr =>
    have hname : (env.extend [⟨name, S⟩]).bindings = Γ ++ [⟨name, S⟩] := by
      rw [Env.bindings, henv]
    exact infer_const_eq_ok_iff.2 ⟨S, ihv henv, ihr hname⟩

/-! ## Agreement -/

/-- Inference in any environment finds a type exactly when the type system derives it from the
flat map that the environment stands for. -/
theorem infer_eq_ok_iff_hasType (env : Env) (t : Term Span) (T : Ty) :
    t.infer env = .ok T ↔ HasType env.bindings t T :=
  ⟨hasType_of_infer, fun h => h.infer_eq_ok rfl⟩

end ArrowTyping
