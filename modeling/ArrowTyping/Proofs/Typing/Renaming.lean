import ArrowTyping.Proofs.Typing.Resolution
import ArrowTyping.Proofs.Typing.TwoRuns

set_option autoImplicit false

/-!
# Names of binders do not matter

Two terms that differ only in how binders, and the names that refer to them, are called are
checked with the same result, up to these names.  The two runs walk down two terms and two chains
of scopes at once.  The chains have different names in them, so they cannot be compared name by
name.  What stays true on the way down is said from the places where names are used: there, each
pair of corresponding names either has the same binder further down, or means the same in the two
chains (`SameUses`).  One step down, a binder of the node itself turns into bindings in the chains:
bindings of the same type, whatever they are called (`SameMeaning.enter`).
-/

namespace ArrowTyping

open Term

/-! ## Names that mean the same -/

section Meaning

variable {env env' : Env} {scope scope' : Scope} {x x' : String}

/-- The name `x` in `env` means the same as `x'` in `env'`: both are bound to the same type, or they
are the same unbound name. -/
def SameMeaning (env env' : Env) (x x' : String) : Prop :=
  env.lookup? x = env'.lookup? x' ∧ (env.lookup? x = none → x = x')

/-- Two names mean the same in scopes with the same types if they are bound there at the same
position.  If they are not bound there, they have to mean the same outside. -/
theorem SameMeaning.extend (htypes : scope.types = scope'.types)
    (hindex : scope.lastIndex? x = scope'.lastIndex? x')
    (houtside : scope.lastIndex? x = none → SameMeaning env env' x x') :
    SameMeaning (env.extend scope) (env'.extend scope') x x' := by
  cases hfound : scope.lastIndex? x with
  | none =>
    have hx : x ∉ scope.names := Scope.lastIndex?_eq_none_iff.1 hfound
    have hx' : x' ∉ scope'.names := Scope.lastIndex?_eq_none_iff.1 (hindex ▸ hfound)
    unfold SameMeaning
    rw [Env.lookup?_extend_of_not_mem hx, Env.lookup?_extend_of_not_mem hx']
    exact houtside hfound
  | some i =>
    have hfound' : scope'.lastIndex? x' = some i := hindex ▸ hfound
    obtain ⟨T, hT⟩ := Scope.getElem?_lastIndex? hfound
    have hlookup : scope.lookup? x = some T := by
      rw [Scope.lookup?_eq_lastIndex?, hfound, Option.bind_some, hT, Option.map_some]
    have hlookup' : scope'.lookup? x' = some T := by
      have hty : (scope'.types)[i]? = some T := by
        rw [← htypes, Scope.types, List.getElem?_map, hT, Option.map_some]
      rw [Scope.lookup?_eq_lastIndex?, hfound', Option.bind_some, ← List.getElem?_map]
      exact hty
    unfold SameMeaning
    rw [Env.lookup?_extend, Env.lookup?_extend, hlookup, hlookup', Option.some_or, Option.some_or]
    exact ⟨rfl, fun hnone => absurd hnone (Option.some_ne_none T)⟩

end Meaning

/-! ## Names that are used alike -/

section Uses

variable {α : Type} {t t' s s' : Term α} {env env' : Env} {step : Step} {x x' : String}

/-- At every place where both terms use a name, the two names have the same binder, or they have
none and mean the same in the environments. -/
def SameUses (env env' : Env) (t t' : Term α) : Prop :=
  ∀ path note note' x x', t.subterm? path = some (.var note x) →
    t'.subterm? path = some (.var note' x') →
      t.binder? path x = t'.binder? path x' ∧
        (t.binder? path x = none → SameMeaning env env' x x')

theorem Binder.above_inj {b b' : Binder} (h : b.above step = b'.above step) : b = b' := by
  cases b <;> cases b' <;> simp_all [Binder.above]

/-- A node is not a binder below itself. -/
theorem Term.binds?_ne_above {b : Binder} :
    t.binds? step x ≠ some (b.above step) := by
  intro h
  cases t with
  | func note params body =>
    cases step with
    | body =>
      rw [binds?, Option.map_eq_some_iff] at h
      obtain ⟨i, -, hi⟩ := h
      cases b <;> simp [Binder.above] at hi
    | _ => simp [binds?] at h
  | const note name value rest =>
    cases step with
    | rest =>
      rw [binds?] at h
      split at h
      · cases b <;> simp [Binder.above] at h
      · cases h
    | _ => simp [binds?] at h
  | _ => simp [binds?] at h

/-- Seen from below a node, two names have the same binder if they have it further down, or have
none there and are bound by the nodes in the same way. -/
theorem Term.binder?_eq_of_cons_eq {path : Path} (hs : t.child? step = some s)
    (hs' : t'.child? step = some s')
    (h : t.binder? (step :: path) x = t'.binder? (step :: path) x') :
    s.binder? path x = s'.binder? path x' ∧
      (s.binder? path x = none → t.binds? step x = t'.binds? step x') := by
  rw [binder?_cons_of_child hs, binder?_cons_of_child hs'] at h
  cases hb : s.binder? path x with
  | none =>
    cases hb' : s'.binder? path x' with
    | none =>
      rw [hb, hb'] at h
      exact ⟨rfl, fun _ => h⟩
    | some b' =>
      rw [hb, hb'] at h
      exact absurd h binds?_ne_above
  | some b =>
    cases hb' : s'.binder? path x' with
    | none =>
      rw [hb, hb'] at h
      exact absurd h.symm binds?_ne_above
    | some b' =>
      rw [hb, hb'] at h
      have habove : b.above step = b'.above step := Option.some.inj h
      refine ⟨congrArg some (Binder.above_inj habove), fun hnone => ?_⟩
      exact absurd hnone (Option.some_ne_none b)

/-- One step down from nodes that are equal except for their names, two names mean the same if the
nodes bind them in the same way, or bind neither and the names mean the same outside. -/
theorem SameMeaning.enter (hshape : t.blankNames = t'.blankNames) (T : Ty)
    (hbinds : t.binds? step x = t'.binds? step x')
    (houtside : t.binds? step x = none → SameMeaning env env' x x') :
    SameMeaning (env.enter (t.scopeBelow? step T)) (env'.enter (t'.scopeBelow? step T)) x x' := by
  cases t with
  | func note params body =>
    obtain ⟨note', params', body', rfl, -, htypes, -⟩ := exists_func_of_alike hshape
    cases step with
    | body =>
      have hindex : params.lastIndex? x = params'.lastIndex? x' := by
        have hinj : Function.Injective (Binder.param []) := fun i j hij => (Binder.param.inj hij).2
        exact Option.map_injective hinj hbinds
      refine .extend htypes hindex fun hnone => houtside ?_
      rw [binds?, hnone, Option.map_none]
    | _ => exact houtside rfl
  | const note name value rest =>
    obtain ⟨note', name', value', rest', rfl, -⟩ := exists_const_of_alike hshape
    cases step with
    | rest =>
      rw [binds?, binds?] at hbinds
      have hindex : Scope.lastIndex? [⟨name, T⟩] x = Scope.lastIndex? [⟨name', T⟩] x' := by
        by_cases hname : name = x <;> by_cases hname' : name' = x' <;>
          simp [Scope.lastIndex?, hname, hname'] at hbinds ⊢
      refine .extend rfl hindex fun hnone => houtside ?_
      have hname : name ≠ x := by
        intro hname
        simp [Scope.lastIndex?, hname] at hnone
      rw [binds?, if_neg hname]
    | _ => exact houtside rfl
  | _ =>
    -- The other nodes put no scope around their children.
    have hscope : t'.scopeBelow? step T = none :=
      Option.map_eq_none_iff.1 (Alike.scopeBelow?_eq hshape step T).symm
    rw [hscope]
    exact houtside rfl

end Uses

/-! ## Both checks -/

/-- The terms are equal except for their names, and use their names alike. -/
structure Renamed (env env' : Env) (t t' : Term Span) : Prop where
  shape : t.blankNames = t'.blankNames
  uses : SameUses env env' t t'

theorem Renamed.sameMeaning {env env' : Env} {span span' : Span} {x x' : String}
    (h : Renamed env env' (.var span x) (.var span' x')) : SameMeaning env env' x x' :=
  (h.uses [] span span' x x' (subterm?_nil _) (subterm?_nil _)).2 (by rw [binder?])

/-- Corresponding children use their names alike in the environments in the children. -/
theorem Renamed.child {env env' : Env} {t t' s s' : Term Span} (h : Renamed env env' t t')
    (step : Step) (hs : t.child? step = some s) (hs' : t'.child? step = some s') (T : Ty) :
    Renamed (env.enter (t.scopeBelow? step T)) (env'.enter (t'.scopeBelow? step T)) s s' := by
  refine ⟨Alike.child h.shape hs hs', ?_⟩
  intro path note note' x x' hx hx'
  have hup : t.subterm? (step :: path) = some (.var note x) := by
    rw [subterm?_cons, hs, Option.bind_some, hx]
  have hup' : t'.subterm? (step :: path) = some (.var note' x') := by
    rw [subterm?_cons, hs', Option.bind_some, hx']
  obtain ⟨hbinder, hfree⟩ := h.uses (step :: path) note note' x x' hup hup'
  obtain ⟨hbelow, hnode⟩ := binder?_eq_of_cons_eq hs hs' hbinder
  refine ⟨hbelow, fun hnone => .enter h.shape T (hnode hnone) fun hunbound => hfree ?_⟩
  rw [binder?_cons_of_child hs, hnone, hunbound]
  rfl

theorem coupling_renamed : Coupling id (fun _ => "") id (fun _ => False) Eq Renamed where
  alike rel := rel.shape
  start rel := congrArg Span.start (Alike.note_eq rel.shape)
  stop rel := congrArg Span.stop (Alike.note_eq rel.shape)
  kept rel T bound := by rw [← rel.sameMeaning.1, bound]
  lost rel unbound := .inr ⟨rel.sameMeaning.2 unbound, by rw [← rel.sameMeaning.1, unbound]⟩
  child := Renamed.child

/-! ## Renaming -/

section Renaming

variable {t t' : Term Span} {y y' : Term Typed}

theorem Term.AlphaEquiv.sameUses (h : t.AlphaEquiv t') (env : Env) : SameUses env env t t' := by
  intro path note note' x x' hx hx'
  obtain ⟨hbinder, hfree⟩ := h.2 path note note' x x' hx hx'
  refine ⟨hbinder, fun hnone => ?_⟩
  obtain rfl : x = x' := hfree hnone
  exact ⟨rfl, fun _ => rfl⟩

/-- What names refer to can be told from the trees without their types. -/
theorem Term.AlphaEquiv.of_erase (h : y.erase.AlphaEquiv y'.erase)
    (hshape : y.blankNames = y'.blankNames) : y.AlphaEquiv y' := by
  refine ⟨hshape, ?_⟩
  intro path note note' x x' hx hx'
  have hvar : y.erase.subterm? path = some (.var note.span x) := by
    rw [erase, subterm?_map, hx, Option.map_some, map_var]
  have hvar' : y'.erase.subterm? path = some (.var note'.span x') := by
    rw [erase, subterm?_map, hx', Option.map_some, map_var]
  have huse := h.2 path note.span note'.span x x' hvar hvar'
  rwa [erase, erase, binder?_map, binder?_map] at huse

/-- Terms that differ only in how binders, and the names that refer to them, are called are checked
with the same error, or with trees that differ only in this way; then corresponding nodes have the
same type. -/
theorem check_of_alphaEquiv (h : t.AlphaEquiv t') (env : Env) :
    (∃ e, t.check env = .error e ∧ t'.check env = .error e) ∨
    ∃ y y', t.check env = .ok y ∧ t'.check env = .ok y' ∧ y.AlphaEquiv y' ∧
      ∀ path, (y.subterm? path).map ty = (y'.subterm? path).map ty := by
  have hchecks := coupling_renamed.check ⟨h.1, h.sameUses env⟩
  rcases hchecks.error_or_ok fun _ => id with
    ⟨violation, place, _, herror, herror', rfl⟩ | ⟨y, y', hy, hy', htyped⟩
  · exact .inl ⟨⟨violation, place⟩, herror, herror'⟩
  · have herase : y.erase.AlphaEquiv y'.erase := by
      rw [erase_of_check hy, erase_of_check hy']
      exact h
    have hshape : y.blankNames = y'.blankNames :=
      htyped.forget (fun note => (⟨note.1, note.2⟩ : Typed)) id id
    exact .inr ⟨y, y', hy, hy', herase.of_erase hshape, htyped.ty_subterm?_eq⟩

/-- The function `params => x + k`. -/
def plusK (params : Scope) (x : String) : Term Span :=
  .func .synthetic params (.add .synthetic (.var .synthetic x) (.var .synthetic "k"))

/-- There is nothing below a name. -/
theorem eq_nil_of_subterm?_var {note : Span} {x : String} {path : Path} {s : Term Span}
    (h : (Term.var note x).subterm? path = some s) : path = [] ∧ s = .var note x := by
  cases path with
  | nil => exact ⟨rfl, (Option.some.inj h).symm⟩
  | cons step path => cases step <;> cases h

/-- It uses a name in two places. -/
theorem path_of_plusK_var {params : Scope} {x y : String} {path : Path} {note : Span}
    (h : (plusK params x).subterm? path = some (.var note y)) :
    (path = [.body, .left] ∧ y = x) ∨ (path = [.body, .right] ∧ y = "k") := by
  obtain _ | ⟨step, _ | ⟨step', path⟩⟩ := path
  · cases h
  · cases step <;> cases h
  · cases step with
    | body =>
      cases step' with
      | left =>
        obtain ⟨rfl, hvar⟩ := eq_nil_of_subterm?_var h
        exact .inl ⟨rfl, (Term.var.inj hvar).2⟩
      | right =>
        obtain ⟨rfl, hvar⟩ := eq_nil_of_subterm?_var h
        exact .inr ⟨rfl, (Term.var.inj hvar).2⟩
      | _ => cases h
    | _ => cases h

/-- The functions `(x: boolean, x: number) => x + k` and `(spare: boolean, n: number) => n + k` are
checked alike, also where the name of the second parameter is taken outside. -/
theorem check_of_alphaEquiv_plusK :
    ∃ y y', (plusK [⟨"x", .boolean⟩, ⟨"x", .number⟩] "x").check
        (.ofScopes [[⟨"n", .boolean⟩, ⟨"k", .number⟩]]) = .ok y ∧
      (plusK [⟨"spare", .boolean⟩, ⟨"n", .number⟩] "n").check
        (.ofScopes [[⟨"n", .boolean⟩, ⟨"k", .number⟩]]) = .ok y' ∧ y.AlphaEquiv y' ∧
      ∀ path, (y.subterm? path).map ty = (y'.subterm? path).map ty := by
  have halpha : (plusK [⟨"x", .boolean⟩, ⟨"x", .number⟩] "x").AlphaEquiv
      (plusK [⟨"spare", .boolean⟩, ⟨"n", .number⟩] "n") := by
    refine ⟨rfl, ?_⟩
    intro path note note' x x' hx hx'
    rcases path_of_plusK_var hx with ⟨rfl, rfl⟩ | ⟨rfl, rfl⟩
    · cases hx'
      exact ⟨rfl, fun hnone => absurd hnone (Option.some_ne_none _)⟩
    · cases hx'
      exact ⟨rfl, fun _ => rfl⟩
  rcases check_of_alphaEquiv halpha (.ofScopes [[⟨"n", .boolean⟩, ⟨"k", .number⟩]]) with
    ⟨e, he, -⟩ | htrees
  · cases he
  · exact htrees

end Renaming

end ArrowTyping
