/-!
# Links

A link points from documentation text to a documented symbol: where it leads, the title shown, and
the name of the symbol it stands for.
-/

namespace GirDoc

/-- A link. `givenTitle` is the title it was made with, `title` the one shown now. -/
structure Link where
  ref : Option String
  title : Option String
  id : Option String
  givenTitle : Option String := title
  deriving Repr, BEq, DecidableEq, Inhabited

/-- A link to a symbol by its name alone. -/
def Link.named (name : Option String) : Link :=
  { ref := none, title := name, id := name }

end GirDoc
