/-!
# Text patterns with wildcards

In a pattern `%` stands for any sequence of characters and `_` for any one character; there is no
escape.
-/

namespace Clickstream

/-- A list and all its tails, the empty one included. -/
def suffixes {α : Type} : List α → List (List α)
  | [] => [[]]
  | x :: xs => (x :: xs) :: suffixes xs

/-- The text matches the pattern. -/
def matchesLike : List Char → List Char → Bool
  | [], text => text.isEmpty
  | '%' :: pattern, text =>
    if pattern.head? = some '%' then matchesLike pattern text else (suffixes text).any (matchesLike pattern)
  | '_' :: _, [] => false
  | '_' :: pattern, _ :: text => matchesLike pattern text
  | _ :: _, [] => false
  | c :: pattern, d :: text => c = d && matchesLike pattern text

end Clickstream
