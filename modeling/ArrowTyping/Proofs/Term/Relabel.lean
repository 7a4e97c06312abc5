import ArrowTyping.Term.Path
import Mathlib.Data.List.Forall2

set_option autoImplicit false

/-!
# Terms that are relabelled alike

Relabelling keeps the shape of a term.  So when two terms become the same one by relabelling, they
are nodes of the same kind with children that become the same, and what they are labelled with
differs at most in what the relabelling forgets.  `Alike` is this relation, and there is one lemma
for each kind of node (`exists_add_of_alike` and so on).

One relabelling after the other is a relabelling (`relabel_relabel`), so terms that are alike stay
so when more is forgotten (`Alike.forget`), and `skeleton`, which forgets notes and then numbers, is
a relabelling, too.
-/

namespace ArrowTyping.Term

variable {α β : Type} {f : α → β} {g : String → String} {h : Float → Float} {t t' : Term α}
  {note : α}

/-- The two terms become the same one by relabelling. -/
def Alike (f : α → β) (g : String → String) (h : Float → Float) (t t' : Term α) : Prop :=
  t.relabel f g h = t'.relabel f g h

theorem Alike.note_eq (e : Alike f g h t t') : f t.note = f t'.note := by
  simpa using congrArg Term.note e

/-- Corresponding children are alike. -/
theorem Alike.child {s s' : Term α} {step : Step} (e : Alike f g h t t')
    (hs : t.child? step = some s) (hs' : t'.child? step = some s') : Alike f g h s s' := by
  have hchild : (t.relabel f g h).child? step = (t'.relabel f g h).child? step := by rw [e]
  rw [child?_relabel, child?_relabel, hs, hs'] at hchild
  exact Option.some.inj hchild

/-- Terms are alike one by one if they are as lists. -/
theorem forall₂_alike_iff {ts ts' : List (Term α)} :
    List.Forall₂ (Alike f g h) ts ts' ↔ ts.map (relabel f g h) = ts'.map (relabel f g h) := by
  have heq : List.Forall₂ Eq (ts.map (relabel f g h)) (ts'.map (relabel f g h)) ↔
      ts.map (relabel f g h) = ts'.map (relabel f g h) := by rw [List.forall₂_eq_eq_eq]
  rwa [List.forall₂_map_left_iff, List.forall₂_map_right_iff] at heq

/-! ## Nodes -/

-- Only here: elsewhere a relabelled tree stays as it is until a proof opens it.
attribute [local simp] relabel Alike

theorem exists_bool_of_alike {value : Bool} (e : Alike f g h (.bool note value) t') :
    ∃ note', t' = .bool note' value ∧ f note = f note' := by
  cases t' with
  | bool note' value' =>
    obtain ⟨hnote, rfl⟩ := bool.inj e
    exact ⟨note', rfl, hnote⟩
  | _ => simp at e

theorem exists_number_of_alike {value : Float} (e : Alike f g h (.number note value) t') :
    ∃ note' value', t' = .number note' value' ∧ f note = f note' ∧ h value = h value' := by
  cases t' with
  | number note' value' =>
    obtain ⟨hnote, hvalue⟩ := number.inj e
    exact ⟨note', value', rfl, hnote, hvalue⟩
  | _ => simp at e

theorem exists_add_of_alike {left right : Term α} (e : Alike f g h (.add note left right) t') :
    ∃ note' left' right', t' = .add note' left' right' ∧ f note = f note' ∧
      Alike f g h left left' ∧ Alike f g h right right' := by
  cases t' with
  | add note' left' right' => exact ⟨note', left', right', rfl, add.inj e⟩
  | _ => simp at e

theorem exists_ifElse_of_alike {test yes no : Term α}
    (e : Alike f g h (.ifElse note test yes no) t') :
    ∃ note' test' yes' no', t' = .ifElse note' test' yes' no' ∧ f note = f note' ∧
      Alike f g h test test' ∧ Alike f g h yes yes' ∧ Alike f g h no no' := by
  cases t' with
  | ifElse note' test' yes' no' => exact ⟨note', test', yes', no', rfl, ifElse.inj e⟩
  | _ => simp at e

theorem exists_var_of_alike {name : String} (e : Alike f g h (.var note name) t') :
    ∃ note' name', t' = .var note' name' ∧ f note = f note' ∧ g name = g name' := by
  cases t' with
  | var note' name' => exact ⟨note', name', rfl, var.inj e⟩
  | _ => simp at e

/-- The types of the parameters are not relabelled. -/
theorem exists_func_of_alike {params : Scope} {body : Term α}
    (e : Alike f g h (.func note params body) t') :
    ∃ note' params' body', t' = .func note' params' body' ∧ f note = f note' ∧
      params.types = params'.types ∧
      (params.map fun p => (⟨g p.name, p.ty⟩ : Binding)) =
        (params'.map fun p => ⟨g p.name, p.ty⟩) ∧
      Alike f g h body body' := by
  cases t' with
  | func note' params' body' =>
    obtain ⟨hnote, hparams, hbody⟩ := func.inj e
    have htypes : params.types = params'.types := by
      simpa [Scope.types, Function.comp_def] using congrArg Scope.types hparams
    exact ⟨note', params', body', rfl, hnote, htypes, hparams, hbody⟩
  | _ => simp at e

theorem exists_call_of_alike {callee : Term α} {args : List (Term α)}
    (e : Alike f g h (.call note callee args) t') :
    ∃ note' callee' args', t' = .call note' callee' args' ∧ f note = f note' ∧
      Alike f g h callee callee' ∧ List.Forall₂ (Alike f g h) args args' := by
  cases t' with
  | call note' callee' args' =>
    simp only [Alike, relabel, relabelAll_eq_map, call.injEq] at e
    obtain ⟨hnote, hcallee, hargs⟩ := e
    exact ⟨note', callee', args', rfl, hnote, hcallee, forall₂_alike_iff.2 hargs⟩
  | _ => simp at e

theorem exists_seq_of_alike {first rest : Term α} (e : Alike f g h (.seq note first rest) t') :
    ∃ note' first' rest', t' = .seq note' first' rest' ∧ f note = f note' ∧
      Alike f g h first first' ∧ Alike f g h rest rest' := by
  cases t' with
  | seq note' first' rest' => exact ⟨note', first', rest', rfl, seq.inj e⟩
  | _ => simp at e

theorem exists_const_of_alike {name : String} {value rest : Term α}
    (e : Alike f g h (.const note name value rest) t') :
    ∃ note' name' value' rest', t' = .const note' name' value' rest' ∧ f note = f note' ∧
      g name = g name' ∧ Alike f g h value value' ∧ Alike f g h rest rest' := by
  cases t' with
  | const note' name' value' rest' => exact ⟨note', name', value', rest', rfl, const.inj e⟩
  | _ => simp at e

/-! ## One relabelling after the other -/

theorem relabel_relabel {γ : Type} (f' : β → γ) (g' : String → String) (h' : Float → Float)
    (t : Term α) :
    (t.relabel f g h).relabel f' g' h' = t.relabel (f' ∘ f) (g' ∘ g) (h' ∘ h) := by
  induction t with
  | bool | number | var => rfl
  | add note left right ihl ihr => simp [ihl, ihr]
  | ifElse note test yes no iht ihy ihn => simp [iht, ihy, ihn]
  | func note params body ih => simp [ih]
  | call note callee args ihc ihs => simpa [ihc] using ihs
  | seq note first rest ihf ihr => simp [ihf, ihr]
  | const note name value rest ihv ihr => simp [ihv, ihr]

/-- Terms that are alike stay so when more is forgotten. -/
theorem Alike.forget {γ : Type} (e : Alike f g h t t') (f' : β → γ) (g' : String → String)
    (h' : Float → Float) : Alike (f' ∘ f) (g' ∘ g) (h' ∘ h) t t' := by
  rw [Alike, ← relabel_relabel, ← relabel_relabel, e]

theorem relabel_id (t : Term α) : t.relabel id id id = t := by
  induction t with
  | bool | number | var => rfl
  | add note left right ihl ihr => simp [ihl, ihr]
  | ifElse note test yes no iht ihy ihn => simp [iht, ihy, ihn]
  | func note params body ih => simp [ih]
  | call note callee args ihc ihs =>
    simp [ihc, List.map_congr_left ihs]
  | seq note first rest ihf ihr => simp [ihf, ihr]
  | const note name value rest ihv ihr => simp [ihv, ihr]

theorem skeleton_eq_relabel (t : Term α) :
    t.skeleton = t.relabel (fun _ => ()) id fun _ => 0 :=
  relabel_relabel id id (fun _ => 0) t

end ArrowTyping.Term
