import QuickFix.Document.Edit
import QuickFix.Path.Basic
import QuickFix.Text.Lines

/-!
Documents: a path, a language, a text and a version that counts the batches of edits applied to it.
A batch of edits speaks about one state of the text. It is applied from the back of the text to the
front, so no edit moves the place of another.
-/

namespace QuickFix

/-- The largest version; a document that reached it keeps it. -/
def maxVersion : Nat := 0xFFFFFFFFFFFFFFFF

/-- An open text with its path and language. -/
structure Document where
  path : Path
  language : String
  version : Nat
  chars : List Char
  deriving DecidableEq, Repr, Inhabited

namespace Document

/-- A document that no edit was applied to yet. -/
def ofText (path : Path) (language text : String) : Document := ⟨path, language, 0, text.toList⟩

def text (d : Document) : String := String.ofList d.chars

def lineCount (d : Document) : Nat := Text.lineCount d.chars

/-- The text of a line without its end. -/
def line? (d : Document) (line : Nat) : Option (List Char) := Text.line? d.chars line

/-- The offset of a position, clamped to the text. -/
def offsetAt (d : Document) (position : Position) : Nat := Text.offsetAt d.chars position

/-- The position of an offset, clamped to the text. -/
def positionAt (d : Document) (offset : Nat) : Position := Text.positionAt d.chars offset

/-- A place in a text between two offsets, and the text to put there. -/
structure Splice where
  start : Nat
  stop : Nat
  newText : List Char
  deriving DecidableEq, Repr, Inhabited

/-- The place an edit means in a document, with its ends put in order. -/
def splice (d : Document) (edit : TextEdit) : Splice :=
  let a := d.offsetAt edit.range.start
  let b := d.offsetAt edit.range.stop
  ⟨min a b, max a b, edit.newText.toList⟩

/-- Splices are sorted by where they start and then by where they end. -/
def Splice.before (a b : Splice) : Bool :=
  a.start < b.start || a.start = b.start && a.stop ≤ b.stop

/-- The splices of a batch, in the order of their places; equal places keep the order of the batch.
-/
def splices (d : Document) (edits : List TextEdit) : List Splice :=
  (edits.map d.splice).mergeSort Splice.before

def Splice.apply (s : Splice) (text : List Char) : List Char :=
  Text.insertAt (Text.eraseAt text s.start (s.stop - s.start)) s.start s.newText

/-- The version after another batch. -/
def bump (version : Nat) : Nat := min (version + 1) maxVersion

/-- Applies a batch of edits. The spans that were replaced are given last one first, as offsets into
the text before. -/
def applyEdits (d : Document) (edits : List TextEdit) : Document × List (Nat × Nat) :=
  let ordered := (d.splices edits).reverse
  let chars := ordered.foldl (fun text s => s.apply text) d.chars
  let version := if ordered.isEmpty then d.version else bump d.version
  ({ d with chars, version }, ordered.map fun s => (s.start, s.stop))

end Document

end QuickFix
