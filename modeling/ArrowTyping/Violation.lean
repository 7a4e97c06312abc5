import ArrowTyping.Source
import ArrowTyping.Text.Quoted
import ArrowTyping.Ty.Printer

set_option autoImplicit false

/-!
# Violations

A `Violation` is a typing rule that does not hold together with what was found instead, and a
`TypeError` is a violation at a place.  Their texts are written here and nowhere else: the
message that says what is wrong, and for most violations a suggestion that says it in the
terms of the program text.

Types are printed as they are and the name of an unbound variable is quoted, so the reader can
always see where it ends.  The file name at the end of a message is printed as it is.
-/

namespace ArrowTyping

/-- Which operand of a sum. -/
inductive Side where
  | left
  | right
  deriving DecidableEq, Repr

/-- The word for a side. -/
def Side.text : Side → String
  | .left => "left"
  | .right => "right"

/-- A typing rule that a term breaks. -/
inductive Violation where
  /-- The test of a conditional has type `received`, which is not `boolean`. -/
  | testNotBoolean (received : Ty)
  /-- An operand of a sum has type `received`, which is not `number`. -/
  | operandNotNumber (side : Side) (received : Ty)
  /-- The branches of a conditional have the different types `yes` and `no`. -/
  | branchesDiffer (yes no : Ty)
  /-- No binding of the name is in force. -/
  | unbound (name : String)
  /-- What is called has type `received`, which is not an arrow. -/
  | notCallable (received : Ty)
  /-- A call passes `received` arguments to a function with `expected` parameters. -/
  | wrongArity (expected received : Nat)
  /-- The argument number `index`, counted from zero, has type `received` where the parameter
  has type `expected`. -/
  | wrongArgument (index : Nat) (expected received : Ty)
  deriving DecidableEq, Repr

namespace Violation

/-- The name under which a kind of violation is filed. -/
def kindName : Violation → String
  | .testNotBoolean _ => "BooleanExpected"
  | .operandNotNumber _ _ => "NumberExpected"
  | .branchesDiffer _ _ => "BranchTypeMismatch"
  | .unbound _ => "UnknownVariable"
  | .notCallable _ => "NotAFunction"
  | .wrongArity _ _ => "ArityMismatch"
  | .wrongArgument _ _ _ => "ArgumentTypeMismatch"

/-- What is wrong, without the place. -/
def message : Violation → String
  | .testNotBoolean received => "boolean expected, received " ++ received.text
  | .operandNotNumber side received =>
    "number expected on the " ++ side.text ++ " side, received " ++ received.text
  | .branchesDiffer yes no =>
    "then and else have different types: " ++ yes.text ++ " and " ++ no.text
  | .unbound name => "unknown variable: " ++ Text.quote name
  | .notCallable received => "function type expected, received " ++ received.text
  | .wrongArity expected received =>
    "wrong number of arguments: expected " ++ toString expected ++ ", received " ++
      toString received
  | .wrongArgument index expected received =>
    "argument " ++ toString index ++ " has the wrong type: expected " ++ expected.text ++
      ", received " ++ received.text

/-- A hint for whoever wrote the program.  A wrong argument has none: its message already says
everything. -/
def suggestion? : Violation → Option String
  | .testNotBoolean received =>
    some ("The condition has type `" ++ received.text ++ "`, only `boolean` can be used here")
  | .operandNotNumber side received =>
    some ("The " ++ side.text ++ " operand of `+` has type `" ++ received.text ++
      "`, expected `number`")
  | .branchesDiffer yes no =>
    some ("Both branches must have the same type, found `" ++ yes.text ++ "` and `" ++ no.text ++
      "`")
  | .unbound name => some ("Variable `" ++ name ++ "` not declared")
  | .notCallable received => some ("Value of type `" ++ received.text ++ "` cannot be called")
  | .wrongArity expected received =>
    some ("Expected " ++ toString expected ++ " arguments, received " ++ toString received)
  | .wrongArgument _ _ _ => none

end Violation

/-- The text of a suggestion that may be missing: no suggestion has no text. -/
def suggestionText (suggestion : Option String) : String := suggestion.getD ""

/-- A violation and where it was found. -/
structure TypeError where
  violation : Violation
  position : Position
  deriving DecidableEq, Repr

/-- What is wrong and where: the message, the file and the offset. -/
def TypeError.message (e : TypeError) : String :=
  e.violation.message ++ " at " ++ e.position.file ++ ":" ++ toString e.position.offset.toNat

end ArrowTyping
