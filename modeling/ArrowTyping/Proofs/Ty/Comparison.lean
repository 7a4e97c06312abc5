import ArrowTyping.Ty.Basic

set_option autoImplicit false

/-!
# What the comparison of types decides

The comparison `Ty.beq` decides whether two types are the same tree.  Where two arrows are compared
this rests on their parameter lists: going through both lists at once ends with the shorter one, so
the lengths have to be compared, too (`beqAll_eq_zip`).

Since the comparison decides equality, it is an equivalence, and a part of a type may be replaced
by one that compares equal to it.  A `Ty.Hole` is a type from which one part has been taken out, a
parameter or a return type at any depth.  Whatever surrounds the hole cancels out of a comparison
(`Hole.beq_fill`), so nothing but the parts in the hole decides whether the whole types differ.
-/

namespace ArrowTyping.Ty

/-! ## Parameter lists -/

/-- Two parameter lists compare equal when they are equally long and no two types in the same place
differ. -/
theorem beqAll_eq_zip (ps qs : List Ty) :
    beqAll ps qs = (ps.length == qs.length && (ps.zip qs).all fun pq => beq pq.1 pq.2) := by
  induction ps generalizing qs with
  | nil => cases qs <;> simp [beqAll]
  | cons p ps ih =>
    cases qs with
    | nil => simp [beqAll]
    | cons q qs =>
      have hlength : ((p :: ps).length == (q :: qs).length) = (ps.length == qs.length) := by simp
      rw [beqAll, ih, hlength, List.zip_cons_cons, List.all_cons, Bool.and_left_comm]

/-! ## Types with a hole -/

/-- An arrow with one part missing. -/
inductive Frame where
  /-- The parameter between those `before` it and those `after` it is missing. -/
  | funcParam (before after : List Ty) (ret : Ty)
  /-- The return type is missing. -/
  | funcRet (params : List Ty)
  deriving Repr

/-- The arrow with a type in the place of the missing part. -/
def Frame.plug (t : Ty) : Frame → Ty
  | .funcParam before after ret => .func (before ++ t :: after) ret
  | .funcRet params => .func params t

/-- A type with a hole, as the arrows around the hole from the outermost one inwards. -/
abbrev Hole := List Frame

/-- The type with `t` in the hole. -/
def Hole.fill (hole : Hole) (t : Ty) : Ty := hole.foldr (fun frame t => frame.plug t) t

@[simp] theorem Hole.fill_nil (t : Ty) : Hole.fill [] t = t := rfl

@[simp] theorem Hole.fill_cons (frame : Frame) (hole : Hole) (t : Ty) :
    Hole.fill (frame :: hole) t = frame.plug (Hole.fill hole t) := rfl

/-- An arrow tells the part that it was completed with. -/
theorem Frame.plug_inj {frame : Frame} {a b : Ty} : frame.plug a = frame.plug b ↔ a = b := by
  cases frame with
  | funcParam before after ret => simp [plug]
  | funcRet params => simp [plug]

/-- A type tells what its hole was filled with. -/
theorem Hole.fill_inj {hole : Hole} {a b : Ty} : hole.fill a = hole.fill b ↔ a = b := by
  induction hole with
  | nil => rfl
  | cons frame hole ih => rw [fill_cons, fill_cons, Frame.plug_inj, ih]

/-- Two fillings of one hole compare as what is in the hole does. -/
theorem Hole.beq_fill (hole : Hole) (a b : Ty) : beq (hole.fill a) (hole.fill b) = beq a b := by
  rw [Bool.eq_iff_iff, beq_eq_true_iff, beq_eq_true_iff, fill_inj]

/-! ## Equality -/

/-- Comparing types is an equivalence. -/
theorem equivalence_beq : Equivalence fun a b => beq a b = true where
  refl a := (beq_eq_true_iff a a).2 rfl
  symm h := (beq_eq_true_iff _ _).2 ((beq_eq_true_iff _ _).1 h).symm
  trans h h' :=
    (beq_eq_true_iff _ _).2 (((beq_eq_true_iff _ _).1 h).trans ((beq_eq_true_iff _ _).1 h'))

/-- Two types compare equal exactly when no comparison tells them apart, wherever in a larger type
they stand and on whichever side. -/
theorem beq_eq_true_iff_fill (a b : Ty) :
    beq a b = true ↔ ∀ (hole : Hole) (c : Ty),
      beq (hole.fill a) c = beq (hole.fill b) c ∧ beq c (hole.fill a) = beq c (hole.fill b) := by
  constructor
  · intro h hole c
    obtain rfl : a = b := (beq_eq_true_iff a b).1 h
    exact ⟨rfl, rfl⟩
  · intro h
    obtain ⟨hleft, -⟩ := h [] b
    rw [Hole.fill_nil, Hole.fill_nil] at hleft
    exact hleft.trans (equivalence_beq.refl b)

/-- The comparison of types, which `==` stands for, decides whether they are the same tree.  Arrows
compare equal when they take equally many parameters, the same ones in the same places, and return
the same.  So comparing is an equivalence, and types that compare equal may stand for each other
inside all others. -/
theorem beq_decides_same_tree :
    (∀ a b : Ty, (beq a b = true ↔ a = b) ∧ (a == b) = beq a b) ∧
    (∀ (params params' : List Ty) (ret ret' : Ty),
      beq (.func params ret) (.func params' ret') =
        (params.length == params'.length &&
          ((params.zip params').all fun pq => beq pq.1 pq.2) && beq ret ret')) ∧
    (Equivalence fun a b => beq a b = true) ∧
    (∀ (hole : Hole) (a b : Ty), beq (hole.fill a) (hole.fill b) = beq a b) ∧
    ∀ a b : Ty, beq a b = true ↔ ∀ (hole : Hole) (c : Ty),
      beq (hole.fill a) c = beq (hole.fill b) c ∧ beq c (hole.fill a) = beq c (hole.fill b) := by
  refine ⟨?_, ?_, equivalence_beq, Hole.beq_fill, beq_eq_true_iff_fill⟩
  · intro a b
    exact ⟨beq_eq_true_iff a b, rfl⟩
  · intro params params' ret ret'
    rw [beq, beqAll_eq_zip]

-- Up to the end of the shorter parameter list the two arrows are the same.
example : beq (func [number] boolean) (func [number, number] boolean) = false := by decide

end ArrowTyping.Ty
