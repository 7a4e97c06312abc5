import ArrowTyping.Ty.Printer

set_option autoImplicit false

/-!
# Reading a type back

`Ty.read?` takes a type from the front of a text and gives back what follows it.  No look-ahead
past the type is needed: after a parameter either a separator or the closing parenthesis must
follow, and the return type of an arrow ends where it ends by itself.

The functions below descend with an explicit fuel, spent once for every type and every
parameter; each of them costs at least one character, so the length of the text is fuel
enough.  That is what `read?_chars_append` rests on: the reader takes exactly one printed type
off any text that begins with it, whatever comes next.
-/

namespace ArrowTyping

namespace Ty

/-- What follows `word` in a text that begins with it. -/
def after? : (word text : List Char) → Option (List Char)
  | [], text => some text
  | _ :: _, [] => none
  | w :: word, c :: text => if w = c then after? word text else none

@[simp] theorem after?_append (word rest : List Char) : after? word (word ++ rest) = some rest := by
  induction word with
  | nil => rfl
  | cons w word ih => simp [after?, ih]

theorem after?_eq_some_iff {word text rest : List Char} :
    after? word text = some rest ↔ text = word ++ rest := by
  constructor
  · intro h
    induction word generalizing text with
    | nil => simpa [after?] using h
    | cons w word ih =>
      cases text with
      | nil => simp [after?] at h
      | cons c text =>
        by_cases hc : w = c
        · simp [hc, ih (by simpa [after?, hc] using h)]
        · simp [after?, hc] at h
  · rintro rfl
    exact after?_append word rest

mutual

/-- Reads one type from the front of a text. -/
def readWithin : (fuel : Nat) → List Char → Option (Ty × List Char)
  | 0, _ => none
  | fuel + 1, text =>
    match after? booleanWord text, after? numberWord text with
    | some rest, _ => some (.boolean, rest)
    | none, some rest => some (.number, rest)
    | none, none => do
      let inner ← after? ['('] text
      let (params, closing) ← readParams fuel inner
      let result ← after? arrow closing
      let (ret, rest) ← readWithin fuel result
      return (.func params ret, rest)

/-- Reads the parameters of an arrow, up to the closing parenthesis. -/
def readParams : (fuel : Nat) → List Char → Option (List Ty × List Char)
  | 0, _ => none
  | _ + 1, ')' :: text => some ([], ')' :: text)
  | fuel + 1, text => do
    let (p, rest) ← readWithin fuel text
    let (ps, closing) ← readMore fuel rest
    return (p :: ps, closing)

/-- Reads the parameters after the first, as long as there is a separator. -/
def readMore : (fuel : Nat) → List Char → Option (List Ty × List Char)
  | 0, _ => none
  | fuel + 1, text =>
    match after? separator text with
    | none => some ([], text)
    | some next => do
      let (p, rest) ← readWithin fuel next
      let (ps, closing) ← readMore fuel rest
      return (p :: ps, closing)

end

/-- Reads one type from the front of a text and gives back what follows it, or nothing if the
text does not begin with a type. -/
def read? (text : List Char) : Option (Ty × List Char) := readWithin text.length text

/-- Reads one type from the front of a string, as `read?` does from a list of characters. -/
def readText? (text : String) : Option (Ty × String) :=
  (read? text.toList).map fun taken => (taken.1, String.ofList taken.2)

/-! ## Reading undoes printing -/

theorem readMore_charsMore {ps : List Ty}
    (h : ∀ p ∈ ps, ∀ fuel rest, p.chars.length ≤ fuel →
      readWithin fuel (p.chars ++ rest) = some (p, rest)) :
    ∀ (fuel : Nat) (rest : List Char), (charsMore ps).length < fuel →
      readMore fuel (charsMore ps ++ ')' :: rest) = some (ps, ')' :: rest) := by
  induction ps with
  | nil =>
    intro fuel rest hfuel
    cases fuel with
    | zero => exact absurd hfuel (Nat.not_lt_zero _)
    | succ fuel =>
      have hsep : after? separator (')' :: rest) = none := rfl
      simp [charsMore, readMore, hsep]
  | cons p ps ih =>
    intro fuel rest hfuel
    cases fuel with
    | zero => exact absurd hfuel (Nat.not_lt_zero _)
    | succ fuel =>
      simp only [charsMore, List.length_append] at hfuel
      have hsep : separator.length = 2 := rfl
      have hp := h p List.mem_cons_self fuel (charsMore ps ++ ')' :: rest) (by omega)
      have hps := ih (fun q hq => h q (List.mem_cons_of_mem p hq)) fuel rest (by omega)
      simp only [charsMore, readMore, List.append_assoc, after?_append]
      simp [hp, hps]

theorem readParams_charsAll {ps : List Ty}
    (h : ∀ p ∈ ps, ∀ fuel rest, p.chars.length ≤ fuel →
      readWithin fuel (p.chars ++ rest) = some (p, rest)) :
    ∀ (fuel : Nat) (rest : List Char), (charsAll ps).length < fuel →
      readParams fuel (charsAll ps ++ ')' :: rest) = some (ps, ')' :: rest) := by
  intro fuel rest hfuel
  cases fuel with
  | zero => exact absurd hfuel (Nat.not_lt_zero _)
  | succ fuel =>
    cases ps with
    | nil => simp [charsAll, readParams]
    | cons p ps =>
      obtain ⟨c, cs, hc, hcs⟩ := chars_eq_cons p
      have hlen : 0 < p.chars.length := by simp [hc]
      simp only [charsAll, List.length_append] at hfuel
      have hp := h p List.mem_cons_self fuel (charsMore ps ++ ')' :: rest) (by omega)
      have hps := readMore_charsMore (fun q hq => h q (List.mem_cons_of_mem p hq)) fuel rest
        (by omega)
      have hne : c ≠ ')' := by rcases hcs with rfl | rfl | rfl <;> decide
      rw [charsAll, List.append_assoc]
      rw [hc, List.cons_append] at hp ⊢
      rw [readParams]
      · simp [hp, hps]
      · intro text heq
        exact hne (List.cons.inj heq).1

theorem readWithin_chars_append (t : Ty) : ∀ (fuel : Nat) (rest : List Char),
    t.chars.length ≤ fuel → readWithin fuel (t.chars ++ rest) = some (t, rest) := by
  induction t with
  | boolean =>
    intro fuel rest hfuel
    cases fuel with
    | zero => exact absurd hfuel (Nat.not_succ_le_zero _)
    | succ fuel => simp only [chars, readWithin, after?_append]
  | number =>
    intro fuel rest hfuel
    cases fuel with
    | zero => exact absurd hfuel (Nat.not_succ_le_zero _)
    | succ fuel =>
      have hb : after? booleanWord (numberWord ++ rest) = none := rfl
      simp only [chars, readWithin, after?_append, hb]
  | func params ret ihps ihret =>
    intro fuel rest hfuel
    cases fuel with
    | zero => simp [chars] at hfuel
    | succ fuel =>
      have harrow : arrow.length = 5 := rfl
      simp only [chars, List.length_cons, List.length_append, harrow] at hfuel
      have hret := ihret fuel rest (by omega)
      have hps : readParams fuel (charsAll params ++ (arrow ++ (ret.chars ++ rest))) =
          some (params, arrow ++ (ret.chars ++ rest)) :=
        readParams_charsAll ihps fuel _ (by omega)
      have hb : ∀ cs, after? booleanWord ('(' :: cs) = none := fun _ => rfl
      have hn : ∀ cs, after? numberWord ('(' :: cs) = none := fun _ => rfl
      have ho : ∀ cs, after? ['('] ('(' :: cs) = some cs := fun _ => rfl
      simp only [chars, List.append_assoc, List.cons_append, readWithin, hb, hn, ho, after?_append,
        Option.bind_eq_bind, Option.bind_some, hps, hret]
      rfl

/-- The reader takes exactly the printed type off a text, whatever comes next. -/
theorem read?_chars_append (t : Ty) (rest : List Char) :
    read? (t.chars ++ rest) = some (t, rest) :=
  readWithin_chars_append t _ rest (by simp)

end Ty

end ArrowTyping
