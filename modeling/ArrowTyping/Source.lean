set_option autoImplicit false

/-!
# Places in source text

A `Position` is a byte offset into a named file, a `Span` is a pair of positions.  Nothing
here looks at the text itself: offsets and file names are carried from whoever built the term
to whoever reads an error.  So a span may well end before it starts, or start in one file and
end in another, and two positions are equal when their offset and their file name are.
-/

namespace ArrowTyping

/-- A byte offset into a named file. -/
structure Position where
  offset : UInt32
  file : String
  deriving DecidableEq, Repr, Inhabited

/-- The place of what was not read from any file. -/
def Position.synthetic : Position := ⟨0, "<null>"⟩

/-- The stretch of source between two positions. -/
structure Span where
  start : Position
  stop : Position
  deriving DecidableEq, Repr, Inhabited

namespace Span

/-- The span of a node that was not read from any file. -/
def synthetic : Span := ⟨.synthetic, .synthetic⟩

/-- The span between two offsets of one file. -/
def within (file : String) (start stop : UInt32) : Span := ⟨⟨start, file⟩, ⟨stop, file⟩⟩

end Span

end ArrowTyping
