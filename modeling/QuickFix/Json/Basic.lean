/-!
JSON values. The members of an object keep the order in which their keys first appeared, and a key
appears once: a repeated key keeps its place and takes the last value.
-/

namespace QuickFix

/-- A number is an integer that fits in 64 bits, with or without a sign, or a finite float. -/
inductive Json.Number where
  | int (value : Int)
  | float (value : Float)
  deriving Repr, Inhabited

inductive Json where
  | null
  | bool (value : Bool)
  | number (value : Json.Number)
  | string (value : String)
  | array (items : List Json)
  | object (members : List (String × Json))
  deriving Repr, Inhabited

namespace Json

/-- Gives a key a value: a new key goes to the end, a known one keeps its place. -/
def setMember (key : String) (value : Json) : List (String × Json) → List (String × Json)
  | [] => [(key, value)]
  | (k, v) :: rest => if k = key then (k, value) :: rest else (k, v) :: setMember key value rest

/-- The members that remain when pairs are written one after the other. -/
def membersOf (pairs : List (String × Json)) : List (String × Json) :=
  pairs.foldl (fun members (key, value) => setMember key value members) []

def member? (key : String) : List (String × Json) → Option Json
  | [] => none
  | (k, v) :: rest => if k = key then some v else member? key rest

/-- A key has the value that it was given last. -/
theorem member?_setMember_self (key : String) (value : Json) (members : List (String × Json)) :
    member? key (setMember key value members) = some value := by
  induction members with
  | nil => simp [setMember, member?]
  | cons m rest ih =>
    obtain ⟨k, v⟩ := m
    by_cases h : k = key
    · simp [setMember, member?, h]
    · simp [setMember, member?, h, ih]

/-- The other keys keep their values. -/
theorem member?_setMember_of_ne {key other : String} (h : other ≠ key) (value : Json)
    (members : List (String × Json)) :
    member? other (setMember key value members) = member? other members := by
  induction members with
  | nil => simp [setMember, member?, h.symm]
  | cons m rest ih =>
    obtain ⟨k, v⟩ := m
    by_cases hk : k = key
    · subst hk
      simp [setMember, member?, h.symm]
    · by_cases ho : k = other
      · subst ho
        simp [setMember, member?, hk]
      · simp [setMember, member?, hk, ho, ih]

def get? (value : Json) (key : String) : Option Json :=
  match value with
  | object members => member? key members
  | _ => none

/-- A number without sign. -/
def ofNat (n : Nat) : Json := number (.int n)

/-- The integer without sign that a value is, if it is one. -/
def natural? : Json → Option Nat
  | number (.int (.ofNat n)) => some n
  | _ => none

def text? : Json → Option String
  | string s => some s
  | _ => none

end Json

end QuickFix
