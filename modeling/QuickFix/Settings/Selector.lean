import QuickFix.Text.Blank

/-!
Language selectors: names of languages with commas between them, perhaps in brackets. Blanks around
the parts do not count, and parts without a name are passed over.
-/

namespace QuickFix.Selector

/-- What stands between brackets, or all if there are no two. -/
def unbracket (cs : List Char) : List Char :=
  match cs with
  | '[' :: rest => if rest.getLast? = some ']' then rest.dropLast else cs
  | _ => cs

/-- The languages that a selector names, as characters. -/
def names (cs : List Char) : List (List Char) :=
  (((unbracket (Text.trim cs)).splitOn ',').map Text.trim).filter (· ≠ [])

def languages (key : String) : List String := (names key.toList).map String.ofList

end QuickFix.Selector
