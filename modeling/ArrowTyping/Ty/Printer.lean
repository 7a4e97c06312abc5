import ArrowTyping.Ty.Basic

set_option autoImplicit false

/-!
# The text of a type

`boolean` and `number` print as themselves, an arrow as `(p1, p2) => ret`.  The parameters
always stand in parentheses and are separated by a comma and a blank; nothing else is put in
parentheses, so the return type of an arrow runs to the end of the arrow's own text.

The text is given as a list of characters, `Ty.chars`, because statements about it are made
there; `Ty.text` is the string of these characters.
-/

namespace ArrowTyping

namespace Ty

/-- How the type `boolean` is written. -/
def booleanWord : List Char := ['b', 'o', 'o', 'l', 'e', 'a', 'n']

/-- How the type `number` is written. -/
def numberWord : List Char := ['n', 'u', 'm', 'b', 'e', 'r']

/-- What stands between two parameters. -/
def separator : List Char := [',', ' ']

/-- What stands between the parameters of an arrow and its return type. -/
def arrow : List Char := [')', ' ', '=', '>', ' ']

mutual

/-- The characters of a type. -/
def chars : Ty → List Char
  | .boolean => booleanWord
  | .number => numberWord
  | .func params ret => '(' :: (charsAll params ++ arrow ++ chars ret)

/-- The characters of a list of parameters, without the parentheses. -/
def charsAll : List Ty → List Char
  | [] => []
  | p :: ps => chars p ++ charsMore ps

/-- The characters of the parameters after the first, each led by its separator. -/
def charsMore : List Ty → List Char
  | [] => []
  | p :: ps => separator ++ chars p ++ charsMore ps

end

/-- The text of a type. -/
def text (t : Ty) : String := String.ofList t.chars

@[simp] theorem toList_text (t : Ty) : t.text.toList = t.chars := String.toList_ofList

/-- The text of a type begins with one of three characters, so it is neither empty nor
mistaken for the end of a parameter list. -/
theorem chars_eq_cons (t : Ty) : ∃ c cs, t.chars = c :: cs ∧ (c = 'b' ∨ c = 'n' ∨ c = '(') := by
  cases t with
  | boolean => exact ⟨_, _, rfl, .inl rfl⟩
  | number => exact ⟨_, _, rfl, .inr (.inl rfl)⟩
  | func params ret => exact ⟨_, _, rfl, .inr (.inr rfl)⟩

end Ty

namespace Signature

/-- The text of a signature, which is the text of its arrow. -/
def text (s : Signature) : String := s.toTy.text

end Signature

end ArrowTyping
