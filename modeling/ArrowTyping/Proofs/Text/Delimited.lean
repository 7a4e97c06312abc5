import ArrowTyping.Text.Quoted

set_option autoImplicit false

/-!
# Texts that show where they end

Messages are put together by writing one text behind another.  To take such a message apart
again, each part must show where it ends, or something must stand behind it that cannot belong
to it.  Quoted text is of the first sort: its closing quote is the first one that does not belong
to an escape.  Numbers are of the second: they end where the digits end.

What may contain anything at all, as a file name does, can only be found from the other side,
when what stands behind it is known not to contain the character between the two.
-/

namespace ArrowTyping.Text

/-- What `print` writes shows where it ends: whatever follows it, the text tells what was
written and what follows. -/
def Delimited {α : Type} (print : α → List Char) : Prop :=
  ∀ ⦃a b : α⦄ ⦃rest rest' : List Char⦄, print a ++ rest = print b ++ rest' → a = b ∧ rest = rest'

/-! ## Cutting at a character -/

section Cut

variable {stop : Char} {before before' after after' : List Char}

/-- A text is cut at the first `stop` in one way only. -/
theorem cut_at_first (h : stop ∉ before) (h' : stop ∉ before')
    (heq : before ++ stop :: after = before' ++ stop :: after') :
    before = before' ∧ after = after' := by
  rcases List.append_eq_append_iff.1 heq with ⟨gap, hbefore, hafter⟩ | ⟨gap, hbefore, hafter⟩
  -- One of the parts before the cut is the other one and a gap.  A gap that is not empty begins
  -- with `stop`, and then that part contains it.
  · cases gap with
    | nil => simpa [hbefore] using hafter
    | cons c gap =>
      obtain rfl : stop = c := (List.cons.inj hafter).1
      exact absurd (by simp [hbefore]) h'
  · cases gap with
    | nil => simpa [hbefore] using hafter.symm
    | cons c gap =>
      obtain rfl : stop = c := (List.cons.inj hafter).1
      exact absurd (by simp [hbefore]) h

/-- A text is cut at the last `stop` in one way only. -/
theorem cut_at_last (h : stop ∉ after) (h' : stop ∉ after')
    (heq : before ++ stop :: after = before' ++ stop :: after') :
    before = before' ∧ after = after' := by
  have hreverse : after.reverse ++ stop :: before.reverse =
      after'.reverse ++ stop :: before'.reverse := by
    simpa using congrArg List.reverse heq
  obtain ⟨hafter, hbefore⟩ := cut_at_first (by simpa using h) (by simpa using h') hreverse
  exact ⟨List.reverse_inj.1 hbefore, List.reverse_inj.1 hafter⟩

end Cut

/-! ## Numbers -/

section Digits

variable {base : Nat}

theorem digitChar_inj {m n : Nat} (hm : m < 16) (hn : n < 16)
    (h : Nat.digitChar m = Nat.digitChar n) : m = n := by
  have key : ∀ m < 16, ∀ n < 16, Nat.digitChar m = Nat.digitChar n → m = n := by decide
  exact key m hm n hn h

/-- The digits of a number tell the number. -/
theorem toDigits_inj (hbase : 1 < base) (hbase' : base ≤ 16) {m n : Nat}
    (h : Nat.toDigits base m = Nat.toDigits base n) : m = n := by
  induction m using Nat.strongRecOn generalizing n with
  | ind m ih =>
    rcases Nat.lt_or_ge m base with hm | hm <;> rcases Nat.lt_or_ge n base with hn | hn
    · rw [Nat.toDigits_of_lt_base hm, Nat.toDigits_of_lt_base hn] at h
      exact digitChar_inj (by omega) (by omega) (List.cons.inj h).1
    -- A number below the base has one digit, any other has more.
    · rw [Nat.toDigits_of_lt_base hm, Nat.toDigits_of_base_le hbase hn] at h
      simp [List.singleton_eq_append_iff, Nat.toDigits_ne_nil] at h
    · rw [Nat.toDigits_of_base_le hbase hm, Nat.toDigits_of_lt_base hn] at h
      simp [List.append_eq_singleton_iff, Nat.toDigits_ne_nil] at h
    · rw [Nat.toDigits_of_base_le hbase hm, Nat.toDigits_of_base_le hbase hn] at h
      obtain ⟨hleading, hlast⟩ := List.append_inj' h rfl
      have hdiv : m / base = n / base := ih _ (Nat.div_lt_self (by omega) hbase) hleading
      have hlt : ∀ k, k % base < 16 := fun k =>
        Nat.lt_of_lt_of_le (Nat.mod_lt k (by omega)) hbase'
      have hmod : m % base = n % base := digitChar_inj (hlt m) (hlt n) (List.cons.inj hlast).1
      rw [← Nat.div_add_mod m base, ← Nat.div_add_mod n base, hdiv, hmod]

/-- Whatever is the character of no digit is no digit of any number. -/
theorem notMem_toDigits (hbase : 1 < base) {c : Char} (hc : ∀ k < base, Nat.digitChar k ≠ c)
    (n : Nat) : c ∉ Nat.toDigits base n := by
  induction n using Nat.strongRecOn with
  | ind n ih =>
    rcases Nat.lt_or_ge n base with hn | hn
    · rw [Nat.toDigits_of_lt_base hn]
      simpa using (hc n hn).symm
    · rw [Nat.toDigits_of_base_le hbase hn]
      have hleading := ih _ (Nat.div_lt_self (by omega) hbase)
      have hlast := hc _ (Nat.mod_lt n (by omega))
      simp [hleading, hlast.symm]

/-- A number ends where a word begins that does not begin with a digit. -/
theorem toDigits_append_inj (hbase : 1 < base) (hbase' : base ≤ 16) {word : List Char}
    (hword : ∃ stop more, word = stop :: more ∧ ∀ k < base, Nat.digitChar k ≠ stop)
    {m n : Nat} {rest rest' : List Char}
    (h : Nat.toDigits base m ++ (word ++ rest) = Nat.toDigits base n ++ (word ++ rest')) :
    m = n ∧ rest = rest' := by
  obtain ⟨stop, more, rfl, hstop⟩ := hword
  obtain ⟨hdigits, hrest⟩ :=
    cut_at_first (notMem_toDigits hbase hstop m) (notMem_toDigits hbase hstop n) h
  exact ⟨toDigits_inj hbase hbase' hdigits, List.append_cancel_left hrest⟩

end Digits

/-! ## Quoted text -/

/-- The three ways in which a character is written between quotes. -/
theorem escapeChar_cases (c : Char) :
    (∃ letter, shortEscape? c = some letter ∧ escapeChar c = ['\\', letter]) ∨
      escapeChar c = '\\' :: 'u' :: '{' :: (codePointDigits c ++ ['}']) ∨
      (c ≠ '\\' ∧ escapeChar c = [c]) := by
  unfold escapeChar
  cases hshort : shortEscape? c with
  | some letter => exact .inl ⟨letter, rfl, rfl⟩
  | none =>
    by_cases hpoint : needsCodePoint c
    · exact .inr (.inl (by simp [hpoint]))
    · exact .inr (.inr ⟨(ne_of_shortEscape?_eq_none hshort).2, by simp [hpoint]⟩)

theorem codePointDigits_append_inj {c d : Char} {rest rest' : List Char}
    (h : codePointDigits c ++ (['}'] ++ rest) = codePointDigits d ++ (['}'] ++ rest')) :
    c = d ∧ rest = rest' := by
  obtain ⟨hpoint, hrest⟩ :=
    toDigits_append_inj (by decide) (by decide) ⟨'}', [], rfl, by decide⟩ h
  exact ⟨Char.toNat_inj.1 hpoint, hrest⟩

/-- A character between quotes shows where it ends. -/
theorem delimited_escapeChar : Delimited escapeChar := by
  intro c d rest rest' h
  rcases escapeChar_cases c with ⟨letter, hc, hcs⟩ | hcs | ⟨hc, hcs⟩ <;>
    rcases escapeChar_cases d with ⟨letter', hd, hds⟩ | hds | ⟨hd, hds⟩ <;>
    rw [hcs, hds] at h <;>
    simp only [List.cons_append, List.nil_append, List.append_assoc, List.cons.injEq,
      true_and] at h
  -- Written in the same way, the two characters are told from what is written; written in
  -- different ways, they differ at the backslash or at the letter behind it.
  · obtain ⟨rfl, hrest⟩ := h
    exact ⟨shortEscape?_inj hc hd, hrest⟩
  · exact absurd (h.1 ▸ hc) (shortEscape?_ne_u c)
  · exact absurd h.1.symm hd
  · exact absurd (h.1 ▸ hd) (shortEscape?_ne_u d)
  · exact codePointDigits_append_inj h
  · exact absurd h.1.symm hd
  · exact absurd h.1 hc
  · exact absurd h.1 hc
  · exact h

theorem escapeChar_append_ne (c : Char) (rest rest' : List Char) :
    escapeChar c ++ rest ≠ '"' :: rest' := by
  obtain ⟨first, more, hc, hne⟩ := escapeChar_eq_cons c
  intro h
  rw [hc] at h
  exact hne (List.cons.inj h).1

theorem escape_append_inj {cs ds rest rest' : List Char}
    (h : escape cs ++ '"' :: rest = escape ds ++ '"' :: rest') : cs = ds ∧ rest = rest' := by
  induction cs generalizing ds with
  | nil =>
    cases ds with
    | nil => simpa using h
    | cons d ds =>
      rw [escape_cons, List.append_assoc] at h
      exact absurd h.symm (escapeChar_append_ne d _ _)
  | cons c cs ih =>
    cases ds with
    | nil =>
      rw [escape_cons, List.append_assoc] at h
      exact absurd h (escapeChar_append_ne c _ _)
    | cons d ds =>
      simp only [escape_cons, List.append_assoc] at h
      obtain ⟨rfl, htail⟩ := delimited_escapeChar h
      obtain ⟨rfl, hrest⟩ := ih htail
      exact ⟨rfl, hrest⟩

/-- A quoted text shows where it ends, whatever characters it is made of. -/
theorem delimited_quote : Delimited fun text => (quote text).toList := by
  intro text text' rest rest' h
  simp only [toList_quote, List.cons_append, List.append_assoc, List.nil_append,
    List.cons.injEq, true_and] at h
  obtain ⟨htext, hrest⟩ := escape_append_inj h
  exact ⟨String.toList_inj.1 htext, hrest⟩

end ArrowTyping.Text
