/-
# IndexSnapshot.Text.Column -- columns of fixed width

A value is written at the left of its column and filled up with spaces.  A value that
is wider than its column is not cut, so it pushes the later columns to the right.
-/

namespace IndexSnapshot.Text

set_option autoImplicit false

/-- Spaces after a text, up to the width of its column. -/
def column (width : Nat) (text : String) : String :=
  text ++ String.ofList (List.replicate (width - text.length) ' ')

/-- An integer in a column. -/
def intColumn (width : Nat) (n : Int) : String :=
  column width (toString n)

end IndexSnapshot.Text
