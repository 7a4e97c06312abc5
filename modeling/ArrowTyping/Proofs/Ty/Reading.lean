import ArrowTyping.Proofs.Text.Delimited
import ArrowTyping.Ty.Reader

set_option autoImplicit false

/-!
# A printed type is read in one way

The return type of an arrow is printed without parentheses, so the text of a type may go on in many
ways: with a comma and a further parameter, with a closing parenthesis, or with words that have
nothing to do with types.  Still a text begins with at most one printed type.  The reader finds it
whatever comes next, as is shown beside it; here it is shown that the reader finds nothing else, so
reading and printing are the two directions of one correspondence (`read?_eq_some_iff`).

Everything else follows from that: the text of a type shows where it ends (`delimited_chars`), so
it tells the type and is the beginning of no other type's text.
-/

namespace ArrowTyping.Ty

open Text

/-! ## Only printed types are read

The three statements go together as the three functions do, by induction on the fuel. -/

mutual

/-- What is read as a type is a printed type. -/
theorem eq_append_of_readWithin {fuel : Nat} {text rest : List Char} {t : Ty}
    (h : readWithin fuel text = some (t, rest)) : text = t.chars ++ rest := by
  cases fuel with
  | zero => cases h
  | succ fuel =>
    rw [readWithin] at h
    split at h
    · next hword =>
      cases h
      exact after?_eq_some_iff.1 hword
    · next hword =>
      cases h
      exact after?_eq_some_iff.1 hword
    · simp only [Option.bind_eq_bind, Option.bind_eq_some_iff, Prod.exists] at h
      obtain ⟨inner, hopen, params, closing, hparams, result, harrow, ret, rest', hret, h⟩ := h
      cases h
      rw [after?_eq_some_iff] at hopen harrow
      have hinner : inner = charsAll params ++ closing := eq_append_of_readParams hparams
      have hresult : result = ret.chars ++ rest := eq_append_of_readWithin hret
      calc text = '(' :: inner := hopen
        _ = '(' :: (charsAll params ++ (arrow ++ (ret.chars ++ rest))) := by
          rw [hinner, harrow, hresult]
        _ = (func params ret).chars ++ rest := by simp [chars]

/-- What is read as parameters is a printed list of parameters. -/
theorem eq_append_of_readParams {fuel : Nat} {text closing : List Char} {ps : List Ty}
    (h : readParams fuel text = some (ps, closing)) : text = charsAll ps ++ closing := by
  cases fuel with
  | zero => cases h
  | succ fuel =>
    by_cases hclose : ∃ more, text = ')' :: more
    · obtain ⟨more, rfl⟩ := hclose
      rw [readParams] at h
      cases h
      rfl
    · rw [readParams] at h
      · simp only [Option.bind_eq_bind, Option.bind_eq_some_iff, Prod.exists] at h
        obtain ⟨p, rest, hp, qs, closing', hqs, h⟩ := h
        cases h
        have htext : text = p.chars ++ rest := eq_append_of_readWithin hp
        have hrest : rest = charsMore qs ++ closing := eq_append_of_readMore hqs
        rw [htext, hrest, charsAll, List.append_assoc]
      · exact fun more heq => hclose ⟨more, heq⟩

/-- What is read as further parameters is a printed list of them. -/
theorem eq_append_of_readMore {fuel : Nat} {text closing : List Char} {ps : List Ty}
    (h : readMore fuel text = some (ps, closing)) : text = charsMore ps ++ closing := by
  cases fuel with
  | zero => cases h
  | succ fuel =>
    rw [readMore] at h
    split at h
    · cases h
      rfl
    · next next hsep =>
      simp only [Option.bind_eq_bind, Option.bind_eq_some_iff, Prod.exists] at h
      obtain ⟨p, rest, hp, qs, closing', hqs, h⟩ := h
      cases h
      rw [after?_eq_some_iff] at hsep
      have hnext : next = p.chars ++ rest := eq_append_of_readWithin hp
      have hrest : rest = charsMore qs ++ closing := eq_append_of_readMore hqs
      rw [hsep, hnext, hrest, charsMore, List.append_assoc, List.append_assoc]

end

/-- The reader takes a type off a text exactly when the text begins with that type's text, and
leaves what follows it. -/
theorem read?_eq_some_iff {text rest : List Char} {t : Ty} :
    read? text = some (t, rest) ↔ text = t.chars ++ rest := by
  constructor
  · intro h
    exact eq_append_of_readWithin h
  · rintro rfl
    exact read?_chars_append t rest

/-! ## Where the text of a type ends -/

/-- A printed type shows where it ends. -/
theorem delimited_chars : Delimited chars := by
  intro a b rest rest' h
  have ha : read? (a.chars ++ rest) = some (a, rest) := read?_eq_some_iff.2 rfl
  have hb : read? (a.chars ++ rest) = some (b, rest') := read?_eq_some_iff.2 h
  exact Prod.mk.inj (Option.some.inj (ha.symm.trans hb))

/-- Two strings that begin with the texts of types are the same only if the types are and what
follows them is. -/
theorem text_append_inj (a b : Ty) (s s' : String) :
    a.text ++ s = b.text ++ s' ↔ a = b ∧ s = s' := by
  constructor
  · intro h
    have hchars : a.chars ++ s.toList = b.chars ++ s'.toList := by
      simpa only [String.toList_append, toList_text] using congrArg String.toList h
    obtain ⟨hty, hrest⟩ := delimited_chars hchars
    exact ⟨hty, String.toList_inj.1 hrest⟩
  · rintro ⟨rfl, rfl⟩
    rfl

/-- The reader of strings undoes printing and reads nothing else. -/
theorem readText?_eq_some_iff {text rest : String} {t : Ty} :
    readText? text = some (t, rest) ↔ text = t.text ++ rest := by
  constructor
  · intro h
    obtain ⟨⟨t', more⟩, hread, heq⟩ := Option.map_eq_some_iff.1 h
    cases heq
    refine String.toList_inj.1 ?_
    rw [read?_eq_some_iff.1 hread, String.toList_append, toList_text, String.toList_ofList]
  · rintro rfl
    rw [readText?, String.toList_append, toList_text, read?_chars_append, Option.map_some,
      String.ofList_toList]

/-- The text of a type can be read in one way only, whatever stands behind it.  So the text of a
type is no proper beginning of another one's, types have the same text exactly when they compare
equal, and the reader finds the type and the rest of any string that begins with a printed type,
and nothing in any other string. -/
theorem text_uniquely_readable :
    (∀ (a b : Ty) (s s' : String), a.text ++ s = b.text ++ s' ↔ a = b ∧ s = s') ∧
    (∀ (a b : Ty) (s : String), a.text ++ s = b.text ↔ a = b ∧ s = "") ∧
    (∀ a b : Ty, a.text = b.text ↔ beq a b = true) ∧
    ∀ (text rest : String) (t : Ty), readText? text = some (t, rest) ↔ text = t.text ++ rest := by
  have hextends : ∀ (a b : Ty) (s : String), a.text ++ s = b.text ↔ a = b ∧ s = "" := by
    intro a b s
    simpa using text_append_inj a b s ""
  refine ⟨text_append_inj, hextends, ?_, fun _ _ _ => readText?_eq_some_iff⟩
  intro a b
  rw [beq_eq_true_iff]
  simpa using hextends a b ""

-- The closing parenthesis of an enclosing type ends the return type.
example : readText? "(number) => () => boolean) => number" =
    some (func [number] (func [] boolean), ") => number") := by decide +kernel

end ArrowTyping.Ty
