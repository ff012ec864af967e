import QuickFix.Template.Context
import QuickFix.Text.Blank

/-!
Templates: texts with placeholders. The families of placeholders are filled one after the other, so
a value may spell a placeholder of a later family. A family that has no source leaves its
placeholders as they are.
-/

namespace QuickFix

/-- What stands for a key that no table has. -/
def unknownText : String := "Unknown"

namespace Template

def opening : List Char := ['\x7b', '\x7b']

/-- The text up to the next two closing braces, if they stand on the same line. -/
def argument? : List Char → Option (List Char)
  | [] => none
  | '\x7d' :: '\x7d' :: _ => some []
  | c :: cs => if c = '\n' then none else (argument? cs).map (c :: ·)

/-- Reads the placeholders of a family: two opening braces, the name, a colon, an argument without
line feed and two closing braces. -/
def placeholder (name : String) (value : List Char → List Char) : Text.TokenReader := fun cs =>
  let head := opening ++ name.toList ++ [':']
  match Text.dropPrefix? head cs with
  | none => none
  | some rest => (argument? rest).map fun a => (value a, head.length + a.length + 2)

def fill (name : String) (value : List Char → List Char) (text : List Char) : List Char :=
  Text.rewrite (placeholder name value) text

/-- Whether a text may hold placeholders. -/
def hasPlaceholders (text : String) : Bool :=
  Text.occurs opening text.toList || Text.occurs ['$', '\x7b'] text.toList

/-- The number that an argument spells: digits with blanks around them and perhaps a plus sign,
below `2 ^ 64`. -/
def index? (argument : List Char) : Option Nat :=
  let trimmed := Text.trim argument
  let digits :=
    match trimmed with
    | '+' :: rest => rest
    | _ => trimmed
  let value := digits.foldl (fun n c => n * 10 + (c.toNat - 48)) 0
  let written := !digits.isEmpty && digits.all fun c => '0' ≤ c && c ≤ '9'
  if written && value < 0x10000000000000000 then some value else none

/-- The text that a table has for an index. -/
def indexed (table : List (String × String)) (argument : List Char) : List Char :=
  let entry := (index? argument).bind fun n => table.lookup (String.ofList (Nat.toDigits 10 n))
  (entry.getD unknownText).toList

def substituted (m : Captured) (argument : List Char) : List Char :=
  (m.substitute (String.ofList argument)).toList

/-- The table that the first group of a diagnostic match chooses, if it took part and is not empty.
-/
def chosenTable? (tables : Tables) (m : Captured) : Option (List (String × String)) :=
  match m.group? 1 with
  | some group => if group = "" then none else tables.group? group
  | none => none

/-- The text that the tables have for a key. -/
def looked (tables : Tables) (argument : List Char) : List Char :=
  ((tables.text? (String.ofList argument)).getD unknownText).toList

/-- Puts the names of a file in place of its variables. -/
def fillFile (file : FileVariables) (text : List Char) : List Char :=
  let parts := [
    ("fileBasenameNoExtension", file.stem), ("fileBasename", file.name),
    ("fileExtname", file.extension), ("fileDirname", file.directory)]
  parts.foldl (fun text (name, value) =>
    Text.replaceAll ('$' :: '\x7b' :: name.toList ++ ['\x7d']) value.toList text) text

/-- Fills the placeholders that refer to a diagnostic. -/
def fillDiagnostic (tables : Tables) (m : Captured) (text : List Char) : List Char :=
  let text := fill "diag" (substituted m) text
  match chosenTable? tables m with
  | some table => fill "diagLookup" (indexed table) text
  | none => text

end Template

/-- What templates are rendered with. -/
structure Renderer where
  evidence : Evidence
  tables : Tables
  file : Option FileVariables
  deriving DecidableEq, Repr

namespace Renderer

/-- Fills all placeholders: those of the diagnostic, of the cursor, of the lookup table and of the
file, in this order. -/
def renderChars (r : Renderer) (text : List Char) : List Char :=
  let text :=
    match r.evidence.diagnostic with
    | some d => Template.fillDiagnostic r.tables d.captured text
    | none => text
  let text :=
    match r.evidence.cursor with
    | some c => Template.fill "atCursor" (Template.substituted c.captured) text
    | none => text
  let text := Template.fill "lookup" (Template.looked r.tables) text
  match r.file with
  | some file => Template.fillFile file text
  | none => text

def render (r : Renderer) (text : String) : String :=
  if Template.hasPlaceholders text then String.ofList (r.renderChars text.toList) else text

end Renderer

end QuickFix
