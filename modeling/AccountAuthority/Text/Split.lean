/-!
# Splitting lists

The parts of a list between its separators.
-/

namespace AccountAuthority.Text

/-- The parts of a list between the elements equal to `sep`: one more than there are such
elements. -/
def splitOn {α : Type} [DecidableEq α] (sep : α) : List α → List (List α)
  | [] => [[]]
  | a :: rest =>
    if a = sep then [] :: splitOn sep rest
    else match splitOn sep rest with
      | [] => [[a]]
      | part :: parts => (a :: part) :: parts

/-- What stands before and after the last element equal to `sep`. -/
def splitLast? {α : Type} [DecidableEq α] (sep : α) (xs : List α) : Option (List α × List α) :=
  let after := (xs.reverse.takeWhile (· ≠ sep)).reverse
  if after.length = xs.length then none
  else some (xs.take (xs.length - after.length - 1), after)

end AccountAuthority.Text
