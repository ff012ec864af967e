import QuickFix.Path.Component

/-!
Slash-separated paths. A path keeps the spelling it was written with, but it stands for its
components: repeated slashes, slashes at the end and dots inside say nothing. A dot counts only
where a relative path begins with it.
-/

namespace QuickFix

/-- A path as it was written. -/
structure Path where
  text : String
  deriving DecidableEq, Repr, Inhabited

namespace Path

/-- The component that a part between slashes stands for; a dot stands for one only in front. -/
def componentOf? (inFront : Bool) (segment : List Char) : Option Component :=
  if segment = [] then none
  else if segment = ['.'] then if inFront then some .current else none
  else if segment = ['.', '.'] then some .parent
  else some (.name (String.ofList segment))

/-- A part of a path between slashes, with the component it stands for. -/
structure Segment where
  chars : List Char
  component? : Option Component

/-- Cuts the text behind the root at its slashes. -/
def segmentsBehindRoot (cs : List Char) : List Segment :=
  (cs.splitOn '/').map fun s => ⟨s, componentOf? false s⟩

/-- Cuts the text of a relative path at its slashes. -/
def segmentsOfRelative (cs : List Char) : List Segment :=
  match cs.splitOn '/' with
  | [] => []
  | first :: more => ⟨first, componentOf? true first⟩ :: more.map fun s => ⟨s, componentOf? false s⟩

def isAbsolute (path : Path) : Bool := path.text.toList.head? = some '/'

def components (path : Path) : List Component :=
  match path.text.toList with
  | '/' :: cs => .root :: (segmentsBehindRoot cs).filterMap Segment.component?
  | cs => (segmentsOfRelative cs).filterMap Segment.component?

/-- The last component, if it is an ordinary name. -/
def fileName? (path : Path) : Option String :=
  match path.components.getLast? with
  | some (.name n) => some n
  | _ => none

/-- Cuts a name at its last dot into stem and extension. A name without a dot, or with its only dot
in front, has no extension. -/
def splitName (name : List Char) : List Char × Option (List Char) :=
  let backwards := name.reverse
  let stem := ((backwards.dropWhile (· ≠ '.')).drop 1).reverse
  if stem = [] then (name, none) else (stem, some (backwards.takeWhile (· ≠ '.')).reverse)

/-- The name without its extension. -/
def fileStem? (path : Path) : Option String :=
  path.fileName?.map fun n => String.ofList (splitName n.toList).1

/-- The extension of the name, without its dot. -/
def extension? (path : Path) : Option String :=
  path.fileName?.bind fun n => (splitName n.toList).2.map String.ofList

/-- Takes the parts that stand for no component off the end. The parts are given last one first. -/
def dropSilent (backwards : List Segment) : List Segment :=
  backwards.dropWhile fun s => s.component?.isNone

/-- Writes parts, given last one first, with slashes between them. -/
def spell (backwards : List Segment) : List Char :=
  ['/'].intercalate (backwards.reverse.map Segment.chars)

/-- The path without its last component, spelled as before. The root and the empty path have none.
-/
def parent? (path : Path) : Option Path :=
  match path.text.toList with
  | '/' :: cs =>
    match dropSilent (segmentsBehindRoot cs).reverse with
    | [] => none
    | _ :: before => some ⟨String.ofList ('/' :: spell (dropSilent before))⟩
  | cs =>
    match dropSilent (segmentsOfRelative cs).reverse with
    | [] => none
    | _ :: before => some ⟨String.ofList (spell (dropSilent before))⟩

/-- Puts a path behind a directory. An absolute path stands for itself. -/
def join (directory path : Path) : Path :=
  if path.isAbsolute then path
  else if directory.text.toList.getLast?.all (· = '/') then ⟨directory.text ++ path.text⟩
  else ⟨directory.text ++ "/" ++ path.text⟩

/-- Whether a path lies in a directory or is it: its components begin with those of the directory.
-/
def startsWith (path directory : Path) : Bool :=
  directory.components.isPrefixOf path.components

end Path

end QuickFix
