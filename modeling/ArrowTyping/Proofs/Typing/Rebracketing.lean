import ArrowTyping.Proofs.Typing.Replacement
import ArrowTyping.Proofs.Typing.Weakening

set_option autoImplicit false

/-!
# Brackets around statements do not matter

However a run of statements is bracketed, its parts are checked in the same order, so the first
violation among them is the same.  What a change of brackets can change is the environment in which
a part is checked: moving a declaration outwards brings the statements behind it into its reach.
They do not notice, because they do not use the name or because it is declared again before them
(`infer_extend_of_hidden`).

The nodes that are taken apart are never reported themselves, and what is reported of the node at
the root is where it starts.  So the change may be made anywhere inside a program, and any number
of times.
-/

namespace ArrowTyping

open Term

variable {t t' : Term Span} {env : Env} {outer inner : Scope}

/-- A scope does not show in the result of a term if each of its names is bound again inside or
not used. -/
theorem Term.infer_extend_of_hidden
    (h : ∀ x ∈ t.freeNames, x ∉ inner.names → x ∉ outer.names) :
    t.infer ((env.extend outer).extend inner) = t.infer (env.extend inner) :=
  infer_congr fun x hx => Env.lookup?_extend_congr fun hinner =>
    Env.lookup?_extend_of_not_mem (h x hx hinner) env

/-- Two bracketings that differ at the root have the same result. -/
theorem Term.Rebracket.infer_eq (h : Rebracket t t') (env : Env) : t.infer env = t'.infer env := by
  cases h with
  | seqSeq note inner inner' a b c => simp only [infer_seq, bind_assoc]
  | constSeq note inner inner' x a v r => simp only [infer_const, infer_seq, bind_assoc]
  | @seqConst note inner inner' x v a b unused =>
    simp only [infer_const, infer_seq, bind_assoc]
    refine bind_congr fun T => bind_congr fun _ => ?_
    -- On the right the declaration reaches `b`, too.
    exact (infer_extend_of_not_mem_freeNames unused T).symm
  | @constConst note inner inner' x y w v r unused =>
    simp only [infer_const, bind_assoc]
    refine bind_congr fun W => bind_congr fun V => ?_
    -- On the right `y` is declared around the declaration of `x` as well.
    have hhidden : ∀ z ∈ r.freeNames, z ∉ Scope.names [⟨x, V⟩] → z ∉ Scope.names [⟨y, W⟩] := by
      intro z hz hx hy
      rw [Scope.mem_names_singleton] at hx hy
      subst hy
      exact unused.elim hx (absurd hz)
    exact (infer_extend_of_hidden hhidden).symm

/-- Two bracketings of a program have the same type or report the same violation at the same
place. -/
theorem infer_eq_of_rebracketed (h : Rebracketed t t') (env : Env) :
    t.infer env = t'.infer env := by
  induction h with
  | @rule hole t t' h =>
    have hstart : t.span.start = t'.span.start := congrArg Span.start h.note_eq
    exact Hole.infer_fill_congr hstart fun inner _ => h.infer_eq inner
  | refl t => rfl
  | symm _ ih => exact ih.symm
  | trans _ _ ih ih' => exact ih.trans ih'

/-- The sum `b + 1`, where `b` is read from offset 40 of the file `f`. -/
def sumOfB : Term Span :=
  .add .synthetic (.var (.within "f" 40 41) "b") (.number .synthetic 1)

/-- The statements `n; const y = n; const x = y; x; b + 1` as the body of a function of `n`,
bracketed so that `y` reaches only the value of `x` and `x` only the statement after it. -/
def narrowProgram : Term Span :=
  .func .synthetic [⟨"n", .number⟩]
    (.seq (.within "f" 10 50)
      (.seq (.within "f" 10 35) (.var .synthetic "n")
        (.const (.within "f" 13 35) "x"
          (.const (.within "f" 13 25) "y" (.var .synthetic "n") (.var .synthetic "y"))
          (.var .synthetic "x")))
      sumOfB)

/-- The same statements, bracketed so that the first one belongs to the value of `y` and both names
reach all statements behind their declarations. -/
def wideProgram : Term Span :=
  .func .synthetic [⟨"n", .number⟩]
    (.const (.within "f" 10 50) "y"
      (.seq .synthetic (.var .synthetic "n") (.var .synthetic "n"))
      (.const .synthetic "x" (.var .synthetic "y") (.seq .synthetic (.var .synthetic "x") sumOfB)))

/-- Both programs report `b` when it is no number. -/
theorem infer_eq_of_rebracketed_narrowProgram :
    Rebracketed narrowProgram wideProgram ∧
    narrowProgram.infer (.ofScopes [[⟨"b", .boolean⟩]]) =
      .error ⟨.operandNotNumber .left .boolean, ⟨40, "f"⟩⟩ := by
  have hx : "x" ∉ sumOfB.freeNames := by simp [sumOfB, freeNames]
  have hy : "y" ∉ (seq .synthetic (var .synthetic "x") sumOfB).freeNames := by
    simp [sumOfB, freeNames]
  have hprogram : Rebracketed narrowProgram wideProgram := by
    -- The first statement is split off, the sum comes into the reach of `x` and then of `y`, and
    -- the first statement joins the value of `y`.
    refine .trans (.rule [.funcBody _ _] (.seqSeq _ _ .synthetic _ _ _)) ?_
    refine .trans (.rule [.funcBody _ _, .seqRest _ _] (.seqConst _ _ .synthetic _ _ hx)) ?_
    refine .trans (.rule [.funcBody _ _, .seqRest _ _]
      (.constConst _ _ .synthetic _ _ (.inr hy))) ?_
    exact .symm (.rule [.funcBody _ _] (.constSeq _ _ _ _ _ _ _))
  exact ⟨hprogram, (infer_eq_of_rebracketed hprogram _).trans rfl⟩

end ArrowTyping
