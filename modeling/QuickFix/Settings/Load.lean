import QuickFix.Engine.Basic
import QuickFix.Json.Parser
import QuickFix.Json.Printer
import QuickFix.Settings.Schema
import QuickFix.Settings.Selector
import QuickFix.Yaml.Value

/-!
Reading settings. They hold up to three sections: the rules by language selector and title, texts by
key, and tables of texts by group. A section that is there must be a mapping, while a rule that is
malformed is passed over and leaves the others alone.
-/

namespace QuickFix

/-- The notations in which settings are written. -/
inductive Settings.Format where
  | json
  | yaml
  deriving DecidableEq, Repr

/-- Why settings cannot be read. -/
inductive Settings.Error where
  /-- The extension of the file says no notation. -/
  | unknownFormat (path : Path)
  /-- There is no such file, or no text in it. -/
  | unreadable
  | json (cause : Json.Error)
  | yaml (cause : Yaml.Error)
  /-- The settings, or a section of them, are no mapping. -/
  | notAMapping (part : String)
  deriving DecidableEq, Repr

namespace Settings

/-- The notation that the extension of a path says. -/
def Format.ofPath (path : Path) : Option Format :=
  match path.extension? with
  | some "json" => some .json
  | some "yaml" => some .yaml
  | some "yml" => some .yaml
  | _ => none

/-- The words for an error. What the file system and the readers of the notations say is their own,
and is given as a detail. -/
def Error.message (e : Error) (detail : String := "") : String :=
  match e with
  | unknownFormat path => s!"cannot infer settings format from '{path.text}'"
  | unreadable => "I/O error: " ++ detail
  | json _ => "JSON parse error: " ++ detail
  | yaml _ => "YAML parse error: " ++ detail
  | notAMapping part => s!"'{part}' must be a mapping"

/-- The members of a section; none if it is missing or null. -/
def section? (root : List (String × Json)) (name : String) :
    Except Error (List (String × Json)) :=
  match Json.member? name root with
  | none => .ok []
  | some .null => .ok []
  | some (.object members) => .ok members
  | some _ => .error (.notAMapping name)

/-- A value as a text: a string is its own text, all else is written as JSON. -/
def textOf : Json → String
  | .string s => s
  | value => value.render

def ruleOf? (title : String) (value : Json) : Option Rule := do
  let shape ← rule? value
  (shape.toRule title).toOption

/-- The rules of a selector, unless they are no mapping or the selector names no language. -/
def actionSet? (selector : String) : Json → Option ActionSet
  | .object rules =>
    match Selector.languages selector with
    | [] => none
    | languages => some ⟨languages, rules.filterMap fun (title, value) => ruleOf? title value⟩
  | _ => none

def textsOf (members : List (String × Json)) : List (String × String) :=
  members.map fun (key, value) => (key, textOf value)

/-- The table of a group: the members of a mapping, or the items of a list by their index. -/
def table? : Json → Option (List (String × String))
  | .object members => some (textsOf members)
  | .array items => some (items.zipIdx.map fun (value, i) => (toString i, textOf value))
  | _ => none

/-- The settings that a value holds. -/
def ofValue : Json → Except Error Configuration
  | .null => .ok {}
  | .object root => do
    let actions ← section? root "actions"
    let lookup ← section? root "lookup"
    let groups ← section? root "diagLookup"
    return {
      sets := actions.filterMap fun (selector, value) => actionSet? selector value
      tables := {
        lookup := textsOf lookup
        diagLookup := groups.filterMap fun (group, value) => (table? value).map (group, ·) } }
  | _ => .error (.notAMapping "settings")

/-- The value that a text spells. -/
def readValue (format : Format) (text : String) : Except Error Json :=
  match format with
  | .json => (Json.parse text).mapError .json
  | .yaml => (Yaml.parse text).mapError .yaml

def load (format : Format) (text : String) : Except Error Configuration := do
  ofValue (← readValue format text)

/-- Reads settings from a file, given its content if it can be read. -/
def loadFile (path : Path) (content : Option String) : Except Error Configuration :=
  match Format.ofPath path with
  | none => .error (.unknownFormat path)
  | some format =>
    match content with
    | none => .error .unreadable
    | some text => load format text

end Settings

end QuickFix
