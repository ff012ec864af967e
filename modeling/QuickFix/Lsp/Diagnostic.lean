import QuickFix.Diagnostic
import QuickFix.Json.Printer
import QuickFix.Lsp.Position

/-!
Diagnostics as language clients send them. A diagnostic needs a range and a message; one without is
passed over.
-/

namespace QuickFix

namespace Severity

def ofNat? : Nat → Option Severity
  | 1 => some .error
  | 2 => some .warning
  | 3 => some .information
  | 4 => some .hint
  | _ => none

def toNat : Severity → Nat
  | error => 1
  | warning => 2
  | information => 3
  | hint => 4

theorem ofNat?_toNat (s : Severity) : ofNat? s.toNat = some s := by cases s <;> rfl

end Severity

namespace Diagnostic

/-- The code of a diagnostic: a text, or a number as it is written. -/
def codeOf? : Json → Option String
  | .string s => some s
  | .number n => some (String.ofList n.text)
  | _ => none

def ofJson? (d : Document) (value : Json) : Option Diagnostic := do
  let range ← ClientRange.ofJson? (← value.get? "range")
  let message ← (← value.get? "message").text?
  return {
    range := d.ofClientRange range
    severity := ((value.get? "severity").bind Json.natural?).bind Severity.ofNat?
    code := (value.get? "code").bind codeOf?
    source := (value.get? "source").bind Json.text?
    message }

/-- Reads a list of diagnostics, bare or as the member `diagnostics` of an object. -/
def listOfJson (d : Document) (value : Json) : List Diagnostic :=
  match (value.get? "diagnostics").getD value with
  | .array items => items.filterMap (ofJson? d)
  | _ => []

def toJson (d : Document) (x : Diagnostic) : Json :=
  .object ([("range", (d.toClientRange x.range).toJson)] ++
    (x.severity.map fun s => ("severity", Json.ofNat s.toNat)).toList ++
    (x.code.map fun c => ("code", Json.string c)).toList ++
    (x.source.map fun s => ("source", Json.string s)).toList ++
    [("message", .string x.message)])

end Diagnostic

end QuickFix
