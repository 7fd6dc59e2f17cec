/-!
# Texts cut at a mark
-/

namespace PolicyStore.Text

/-- The pieces of a text between occurrences of `mark`. -/
def pieces (mark : Char) : List Char → List (List Char)
  | [] => [[]]
  | c :: rest =>
    match pieces mark rest with
    | [] => [[c]]
    | piece :: more => if c = mark then [] :: piece :: more else (c :: piece) :: more

end PolicyStore.Text
