/-!
Sorting texts by bytes, which for Unicode text is the order of code points.
-/
namespace Distill.Text

/-- Puts a text before the first one of a list that is not smaller. -/
def insertSorted (s : String) : List String → List String
  | [] => [s]
  | x :: xs => if x < s then x :: insertSorted s xs else s :: x :: xs

def sorted (xs : List String) : List String := xs.foldr insertSorted []

end Distill.Text
