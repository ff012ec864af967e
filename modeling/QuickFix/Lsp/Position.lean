import QuickFix.Document.Basic
import QuickFix.Json.Basic
import QuickFix.Text.Utf16

/-!
Positions as language clients count them: a line, and in it UTF-16 code units. Their numbers have 32
bits, and larger ones lose their upper bits.
-/

namespace QuickFix

/-- A position in UTF-16 code units. -/
structure ClientPosition where
  line : UInt32
  character : UInt32
  deriving DecidableEq, Repr, Inhabited

/-- A range in UTF-16 code units. -/
structure ClientRange where
  start : ClientPosition
  stop : ClientPosition
  deriving DecidableEq, Repr, Inhabited

namespace ClientPosition

def ofJson? (value : Json) : Option ClientPosition := do
  let line ← (← value.get? "line").natural?
  let character ← (← value.get? "character").natural?
  return ⟨.ofNat line, .ofNat character⟩

def toJson (p : ClientPosition) : Json :=
  .object [("line", .ofNat p.line.toNat), ("character", .ofNat p.character.toNat)]

end ClientPosition

namespace ClientRange

def ofJson? (value : Json) : Option ClientRange := do
  let start ← ClientPosition.ofJson? (← value.get? "start")
  let stop ← ClientPosition.ofJson? (← value.get? "end")
  return ⟨start, stop⟩

def toJson (r : ClientRange) : Json :=
  .object [("start", r.start.toJson), ("end", r.stop.toJson)]

/-- A range whose columns are taken for code units. -/
def ofRange (r : Range) : ClientRange :=
  ⟨⟨.ofNat r.start.line, .ofNat r.start.column⟩, ⟨.ofNat r.stop.line, .ofNat r.stop.column⟩⟩

end ClientRange

namespace Document

/-- The position of a client that means a position. -/
def toClient (d : Document) (p : Position) : ClientPosition :=
  ⟨.ofNat p.line, .ofNat (Text.unitsBefore ((d.line? p.line).getD []) p.column)⟩

def toClientRange (d : Document) (r : Range) : ClientRange :=
  ⟨d.toClient r.start, d.toClient r.stop⟩

/-- The position that a position of a client means. -/
def ofClient (d : Document) (p : ClientPosition) : Position :=
  ⟨p.line.toNat, Text.charsCovering ((d.line? p.line.toNat).getD []) p.character.toNat⟩

def ofClientRange (d : Document) (r : ClientRange) : Range := ⟨d.ofClient r.start, d.ofClient r.stop⟩

end Document

end QuickFix
