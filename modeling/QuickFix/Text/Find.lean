/-!
Search for a text inside a text: what stands before and after the first occurrence, and its offset.
-/

namespace QuickFix.Text

/-- What follows `needle` at the start of a text, if the text starts with it. -/
def dropPrefix? : List Char → List Char → Option (List Char)
  | [], cs => some cs
  | _ :: _, [] => none
  | n :: ns, c :: cs => if n = c then dropPrefix? ns cs else none

/-- What stands before the first occurrence of `needle`, and what follows it. -/
def splitFirst? (needle : List Char) : List Char → Option (List Char × List Char)
  | [] => (dropPrefix? needle []).map fun rest => ([], rest)
  | c :: cs =>
    match dropPrefix? needle (c :: cs) with
    | some rest => some ([], rest)
    | none => (splitFirst? needle cs).map fun (before, after) => (c :: before, after)

/-- The offset of the first occurrence of `needle`; an empty text occurs at the start. -/
def find? (needle text : List Char) : Option Nat :=
  (splitFirst? needle text).map fun (before, _) => before.length

def occurs (needle text : List Char) : Bool := (find? needle text).isSome

end QuickFix.Text
