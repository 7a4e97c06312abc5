import ArrowTyping.Proofs.Ty.Reading
import ArrowTyping.Violation

set_option autoImplicit false

/-!
# A message tells the error

The message of an error is read in two directions.  From the left, its first letter tells the
kind of the violation, and what the violation carries can be taken off piece by piece: types,
quoted names and sides show where they end, and behind a number stands a comma or a blank.
That leads to the end of the violation's own text, also when the file name imitates it.  What
is left is the file name and the offset, and there only the last colon separates the two, since
a file name may contain any character.
-/

namespace ArrowTyping

open Text

/-- The word for a side shows where it ends. -/
theorem Side.delimited_text : Delimited fun side => (Side.text side).toList := by
  intro side side' rest rest' h
  cases side <;> cases side' <;> simp [Side.text] at h ⊢ <;> exact h

namespace Violation

/-- The letter that a message begins with.  No two kinds of violation share one. -/
def initial : Violation → Char
  | .testNotBoolean _ => 'b'
  | .operandNotNumber _ _ => 'n'
  | .branchesDiffer _ _ => 't'
  | .unbound _ => 'u'
  | .notCallable _ => 'f'
  | .wrongArity _ _ => 'w'
  | .wrongArgument _ _ _ => 'a'

theorem message_eq_initial_cons (v : Violation) : ∃ cs, v.message.toList = v.initial :: cs := by
  cases v <;> unfold message <;> simp [initial]

theorem initial_eq_of_message_append {v v' : Violation} {rest rest' : List Char}
    (h : v.message.toList ++ rest = v'.message.toList ++ rest') : v.initial = v'.initial := by
  obtain ⟨cs, hcs⟩ := message_eq_initial_cons v
  obtain ⟨cs', hcs'⟩ := message_eq_initial_cons v'
  rw [hcs, hcs'] at h
  exact (List.cons.inj h).1

/-- A violation is told from a text that begins with its message, if `" at "` stands behind
it. -/
theorem message_append_inj {v v' : Violation} {rest rest' : List Char}
    (h : v.message.toList ++ (" at ".toList ++ rest) =
      v'.message.toList ++ (" at ".toList ++ rest')) :
    v = v' ∧ rest = rest' := by
  have hinitial := initial_eq_of_message_append h
  cases v <;> cases v' <;> simp only [initial, Char.reduceEq] at hinitial
  -- The two are of one kind and so begin with the same words.
  all_goals
    unfold message at h
    simp only [String.toList_append, List.append_assoc, List.append_cancel_left_eq,
      Ty.toList_text, Nat.toString_eq_ofList_toDigits, String.toList_ofList] at h
  case testNotBoolean.testNotBoolean received received' =>
    obtain ⟨rfl, hrest⟩ := Ty.delimited_chars h
    exact ⟨rfl, List.append_cancel_left hrest⟩
  case operandNotNumber.operandNotNumber side received side' received' =>
    obtain ⟨rfl, hmore⟩ := Side.delimited_text h
    obtain ⟨rfl, hrest⟩ := Ty.delimited_chars (List.append_cancel_left hmore)
    exact ⟨rfl, List.append_cancel_left hrest⟩
  case branchesDiffer.branchesDiffer yes no yes' no' =>
    obtain ⟨rfl, hmore⟩ := Ty.delimited_chars h
    obtain ⟨rfl, hrest⟩ := Ty.delimited_chars (List.append_cancel_left hmore)
    exact ⟨rfl, List.append_cancel_left hrest⟩
  case unbound.unbound name name' =>
    obtain ⟨rfl, hrest⟩ := delimited_quote h
    exact ⟨rfl, List.append_cancel_left hrest⟩
  case notCallable.notCallable received received' =>
    obtain ⟨rfl, hrest⟩ := Ty.delimited_chars h
    exact ⟨rfl, List.append_cancel_left hrest⟩
  case wrongArity.wrongArity expected received expected' received' =>
    -- The first number ends at a comma, the second at the blank of `" at "`.
    obtain ⟨rfl, hmore⟩ :=
      toDigits_append_inj (by decide) (by decide) ⟨',', _, rfl, by decide⟩ h
    obtain ⟨rfl, hrest⟩ :=
      toDigits_append_inj (by decide) (by decide) ⟨' ', _, rfl, by decide⟩ hmore
    exact ⟨rfl, hrest⟩
  case wrongArgument.wrongArgument index expected received index' expected' received' =>
    obtain ⟨rfl, hmore⟩ :=
      toDigits_append_inj (by decide) (by decide) ⟨' ', _, rfl, by decide⟩ h
    obtain ⟨rfl, hlast⟩ := Ty.delimited_chars hmore
    obtain ⟨rfl, hrest⟩ := Ty.delimited_chars (List.append_cancel_left hlast)
    exact ⟨rfl, List.append_cancel_left hrest⟩

end Violation

/-- A place is told from a file name and an offset with a colon between them, whatever the file
name contains: an offset contains no colon. -/
theorem Position.eq_of_toList_eq {p q : Position}
    (h : p.file.toList ++ ':' :: Nat.toDigits 10 p.offset.toNat =
      q.file.toList ++ ':' :: Nat.toDigits 10 q.offset.toNat) : p = q := by
  have hcolon : ∀ n, ':' ∉ Nat.toDigits 10 n := notMem_toDigits (by decide) (by decide)
  obtain ⟨hfile, hdigits⟩ := cut_at_last (hcolon _) (hcolon _) h
  have hoffset := UInt32.toNat_inj.1 (toDigits_inj (by decide) (by decide) hdigits)
  obtain ⟨offset, file⟩ := p
  obtain ⟨offset', file'⟩ := q
  rw [Position.mk.injEq]
  exact ⟨hoffset, String.toList_inj.1 hfile⟩

namespace TypeError

theorem toList_message (e : TypeError) :
    e.message.toList = e.violation.message.toList ++ (" at ".toList ++
      (e.position.file.toList ++ ':' :: Nat.toDigits 10 e.position.offset.toNat)) := by
  simp only [message, String.toList_append, List.append_assoc, Nat.toString_eq_ofList_toDigits,
    String.toList_ofList]
  rfl

/-- The text of an error tells the error: the rule that is broken with all that the violation
carries, the offset and the file. -/
theorem message_eq_message_iff (e e' : TypeError) :
    e.message = e'.message ↔
      e.violation = e'.violation ∧ e.position.offset = e'.position.offset ∧
        e.position.file = e'.position.file := by
  constructor
  · intro h
    have hchars : e.message.toList = e'.message.toList := congrArg String.toList h
    rw [toList_message, toList_message] at hchars
    obtain ⟨hviolation, hplace⟩ := Violation.message_append_inj hchars
    have hposition : e.position = e'.position := Position.eq_of_toList_eq hplace
    exact ⟨hviolation, congrArg _ hposition, congrArg _ hposition⟩
  · rintro ⟨hviolation, hoffset, hfile⟩
    simp only [message, hviolation, hoffset, hfile]

-- A file name that imitates the end of a message.
example : message ⟨.wrongArity 1 2, ⟨3, "f at g:4"⟩⟩ =
    "wrong number of arguments: expected 1, received 2 at f at g:4:3" := by decide +kernel

end TypeError

end ArrowTyping
