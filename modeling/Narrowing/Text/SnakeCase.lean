import Narrowing.Text.LowerCase

/-!
# Snake case

A name in camel case is split into words by underscores and put into lower case.
The splitting takes two left-to-right passes: the first sets a capitalised word
apart from the character before it, the second sets a capital apart from a lower
case letter or digit before it. A pass never looks again at a character it has
already used.

## Main definitions

* `breakWords` — the first pass
* `breakHumps` — the second pass
* `snakeCase` — both passes, then lower case
-/

namespace Narrowing.Text

/-- Sets every capitalised word apart from the character before it. A line break is left
where it is. -/
def breakWords : List Char → List Char
  | x :: y :: z :: r =>
    if x ≠ '\n' ∧ y.isUpper ∧ z.isLower then
      x :: '_' :: y :: z :: (r.takeWhile Char.isLower ++ breakWords (r.dropWhile Char.isLower))
    else x :: breakWords (y :: z :: r)
  | s => s
termination_by s => s.length
decreasing_by
  · have := (List.dropWhile_sublist (l := r) Char.isLower).length_le
    simp only [List.length_cons]
    omega
  · simp

/-- Sets every capital apart from the lower case letter or digit before it. -/
def breakHumps : List Char → List Char
  | x :: y :: r =>
    if (x.isLower ∨ x.isDigit) ∧ y.isUpper then x :: '_' :: y :: breakHumps r
    else x :: breakHumps (y :: r)
  | s => s
termination_by s => s.length

/-- The name with an underscore between its words, letter case kept. -/
def separateWords (s : List Char) : List Char := breakHumps (breakWords s)

/-- The name in snake case. -/
def snakeCase (s : String) : String := String.ofList (lower (separateWords s.toList))

end Narrowing.Text
