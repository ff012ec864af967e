import QuickFix.Yaml.Core
import QuickFix.Yaml.Document
import QuickFix.Yaml.Lexer

/-!
The value of a YAML text. An alias stands for the last node that was given its number. The keys of a
mapping are the texts of scalars, whatever kind those are of. Aliases are followed a bounded number
of times, so that a short text cannot stand for an enormous value.
-/

namespace QuickFix.Yaml

/-- The nodes that aliases stand for, and how often aliases may be followed. -/
structure Aliases where
  nodes : List (Nat × Node)
  most : Nat

namespace Aliases

/-- How often aliases may be followed for each unit of the size of a document. -/
def perUnit : Nat := 100

/-- The nodes of a document that aliases stand for, the last one first. -/
def ofRoot (root : Node) : Aliases := ⟨root.anchored.reverse, root.size * perUnit⟩

end Aliases

/-- A computation that counts how often aliases were followed. -/
abbrev Resolving (α : Type) := StateT Nat (Except Error) α

/-- Follows a node that is an alias. -/
def follow (aliases : Aliases) (node : Node) : Resolving Node := do
  match node with
  | .reference anchor =>
    let followed ← modifyGet fun n => (n + 1, n + 1)
    if aliases.most < followed then throw .tooManyAliases
    match aliases.nodes.lookup anchor with
    | some target => return target
    | none => throw (.danglingAlias anchor)
  | _ => return node

def scalarValue (tag : Option Tag) (text : List Char) (plain : Bool) : Except Error Json :=
  match tag with
  | none => if plain then Core.plain text else .ok (.string (String.ofList text))
  | some .bool =>
    match Core.bool? text with
    | some b => .ok (.bool b)
    | none => .error .wrongKind
  | some .int => do
    match ← Core.int? text with
    | some n => return .number (.int n)
    | none => throw .wrongKind
  | some .float =>
    match Core.float? text with
    | some value => .ok value
    | none => .error .wrongKind
  | some .null => if Core.isNull text then .ok .null else .error .wrongKind
  | some .ownKind => .error .localTag
  | some .other => .ok (.string (String.ofList text))

def keyText (aliases : Aliases) (node : Node) : Resolving String := do
  match ← follow aliases node with
  | .scalar _ text _ => return String.ofList text
  | _ => throw .compoundKey

/-- Refuses a list or a mapping of a kind of the document's own. -/
def checkCollection (p : Properties) : Resolving Unit := do
  if p.tag = some .ownKind then throw .localTag

/-- The value of a node; `depth` lists and mappings may still be opened. -/
def valueOf (aliases : Aliases) : (depth : Nat) → Node → Resolving Json
  | depth, node => do
    match ← follow aliases node with
    | .reference anchor => throw (.danglingAlias anchor)
    | .scalar p text plain => scalarValue p.tag text plain
    | .sequence p items =>
      checkCollection p
      match depth with
      | 0 => throw .tooDeep
      | depth + 1 => return .array (← items.mapM (valueOf aliases depth))
    | .mapping p entries =>
      checkCollection p
      match depth with
      | 0 => throw .tooDeep
      | depth + 1 =>
        let pairs ← entries.mapM fun (key, value) => do
          return (← keyText aliases key, ← valueOf aliases depth value)
        return .object (Json.membersOf pairs)

/-- The value of a text; null if it holds no document. -/
def parse (text : String) : Except Error Json := do
  match ← document? (← tokens text.toList) with
  | none => return .null
  | some root => (valueOf (.ofRoot root) maxDepth root).run' 0

end QuickFix.Yaml
