import ArrowTyping.Text.CodeTable

set_option autoImplicit false

/-!
# Quoted text

A name is quoted so that a reader can see where it begins and ends and which characters it is
made of.  It stands between double quotes.  A quote or a backslash in it gets a backslash in
front; tab, line feed, carriage return and NUL are written as `\t`, `\n`, `\r` and `\0`; a
character that could not be seen, or that would attach to its neighbour, is written as `\u`
with its code point in braces, in lower-case hexadecimal digits without leading zeros.  Every
other character stands for itself, a single quote included.
-/

namespace ArrowTyping.Text

/-- The characters that have a short escape, each with the letter that follows the
backslash. -/
def shortEscapes : List (Char × Char) :=
  [('"', '"'), ('\\', '\\'), ('\t', 't'), ('\n', 'n'), ('\r', 'r'), ('\x00', '0')]

/-- The letter of the short escape of a character, if it has one. -/
def shortEscape? (c : Char) : Option Char := shortEscapes.lookup c

/-- The tables of the characters that are written by their code points. -/
def codePointTables : List CodeTable := [unprintable, defaultIgnorable, extendingMark]

/-- Whether a character without a short escape has to be written by its code point. -/
def needsCodePoint (c : Char) : Bool := codePointTables.any fun table => table.contains c

/-- The code point of a character as it is written in an escape. -/
def codePointDigits (c : Char) : List Char := Nat.toDigits 16 c.toNat

/-- How one character is written between quotes. -/
def escapeChar (c : Char) : List Char :=
  match shortEscape? c with
  | some letter => ['\\', letter]
  | none =>
    if needsCodePoint c then ['\\', 'u', '{'] ++ codePointDigits c ++ ['}'] else [c]

/-- How a text is written between quotes. -/
def escape (text : List Char) : List Char := text.flatMap escapeChar

/-- A text in double quotes. -/
def quote (text : String) : String := String.ofList ('"' :: (escape text.toList ++ ['"']))

@[simp] theorem escape_nil : escape [] = [] := rfl

@[simp] theorem escape_cons (c : Char) (text : List Char) :
    escape (c :: text) = escapeChar c ++ escape text := rfl

@[simp] theorem toList_quote (text : String) :
    (quote text).toList = '"' :: (escape text.toList ++ ['"']) := String.toList_ofList

theorem mem_of_shortEscape? {c letter : Char} (h : shortEscape? c = some letter) :
    (c, letter) ∈ shortEscapes := by
  obtain ⟨before, after, happ, _⟩ := List.lookup_eq_some_iff.1 h
  rw [happ]
  simp

/-- A short escape names its character. -/
theorem shortEscape?_inj {c d letter : Char} (hc : shortEscape? c = some letter)
    (hd : shortEscape? d = some letter) : c = d := by
  have key : ∀ p ∈ shortEscapes, ∀ q ∈ shortEscapes, p.2 = q.2 → p.1 = q.1 := by decide
  exact key _ (mem_of_shortEscape? hc) _ (mem_of_shortEscape? hd) rfl

/-- Only the escape of a code point has a `u` after its backslash. -/
theorem shortEscape?_ne_u (c : Char) : shortEscape? c ≠ some 'u' := by
  intro h
  have key : ∀ p ∈ shortEscapes, p.2 ≠ 'u' := by decide
  exact key _ (mem_of_shortEscape? h) rfl

/-- A character that stands for itself is neither the quote nor the backslash. -/
theorem ne_of_shortEscape?_eq_none {c : Char} (h : shortEscape? c = none) :
    c ≠ '"' ∧ c ≠ '\\' := by
  constructor <;> (rintro rfl; simp [shortEscape?, shortEscapes] at h)

/-- A character stands for itself exactly when it has no short escape and no range of a table holds
its code point. -/
theorem escapeChar_eq_self_iff {c : Char} :
    escapeChar c = [c] ↔ shortEscape? c = none ∧
      ∀ table ∈ codePointTables, ∀ r ∈ table.ranges, ¬ r.Mem c.toNat := by
  have hpoint : needsCodePoint c = false ↔
      ∀ table ∈ codePointTables, ∀ r ∈ table.ranges, ¬ r.Mem c.toNat := by
    simp [needsCodePoint, ← Bool.not_eq_true, CodeTable.contains_iff]
  rw [← hpoint]
  unfold escapeChar
  cases hshort : shortEscape? c with
  | some letter => simp
  | none => cases hneeds : needsCodePoint c <;> simp

-- A single quote needs no escape between double quotes.
example : escapeChar '\'' = ['\''] := by decide +kernel

/-- No character is written with a double quote in front, so the closing quote of a quoted text
cannot be taken for a part of the text. -/
theorem escapeChar_eq_cons (c : Char) : ∃ d ds, escapeChar c = d :: ds ∧ d ≠ '"' := by
  unfold escapeChar
  split
  · exact ⟨_, _, rfl, by decide⟩
  · next h =>
    split
    · exact ⟨_, _, rfl, by decide⟩
    · exact ⟨c, [], rfl, (ne_of_shortEscape?_eq_none h).1⟩

end ArrowTyping.Text
