/-!
# Columns
-/

namespace Reattach.Text

/-- A text filled up with blanks to a width, and left as it is if it is wider. -/
def padded (width : Nat) (text : String) : String :=
  text ++ String.ofList (List.replicate (width - text.length) ' ')

end Reattach.Text
