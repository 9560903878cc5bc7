import Stencil.CommandLine.Script
import Stencil.Config.Reader
import Stencil.Json.Reader
import Stencil.Modifier.Catalogue
import Stencil.Template.Populate

namespace Stencil.CommandLine

/-! Filling in the template in a file with values from several sources. -/

/-- Readers of documents: which texts they take, and what they read in them. -/
structure DocumentReaders where
  json : String → Option Value
  yaml : String → Option Value
  /-- Reads a configuration file. -/
  settings : String → Option FileSettings

/-- The readers of this library. -/
def DocumentReaders.standard : DocumentReaders where
  json text := Json.parse? text.toList
  yaml text := Yaml.parse? text.toList >>= Yaml.Node.toValue?
  settings := FileSettings.parse?

/-- The orders in which the dictionaries of texts are listed. -/
structure Orders where
  configured : Dictionary.Iteration String
  assigned : Dictionary.Iteration String

def Orders.ascending : Orders := ⟨.ascending, .ascending⟩

/-- The form of the document in a file with values: JSON if its extension says so. -/
def formOf (path : String) : DocumentForm :=
  match fileExtension? path with
  | some ending => if ending.map Char.toLower = "json".toList then .json else .yaml
  | none => .yaml

def DocumentReaders.parse? (documents : DocumentReaders) : DocumentForm → String → Option Value
  | .json => documents.json
  | .yaml => documents.yaml

/-- The values in the document of a file. -/
def valuesOf (documents : DocumentReaders) (path text : String) : Except Failure KeywordValues :=
  match documents.parse? (formOf path) text with
  | none => .error (.valuesMalformed path (formOf path))
  | some value => (KeywordValues.ofValue value).mapError (Failure.valuesNotMapping path)

def loadValues (documents : DocumentReaders) (path : String) : Script KeywordValues := do
  let text ← .readText path (.valuesUnreadable path)
  .orFail (valuesOf documents path text)

/-- The values of a file, if there is one. -/
def loadOptionalValues (documents : DocumentReaders) : Option String → Script KeywordValues
  | none => .done .empty
  | some path => loadValues documents path

/-- Reads a key, an equals sign and a text. -/
def readAssignment (argument : String) : Except AssignmentFault (String × String) :=
  let text := argument.toList
  match text.dropWhile (· != '=') with
  | [] => .error ⟨argument⟩
  | _ :: value => .ok (String.ofList (text.takeWhile (· != '=')), String.ofList value)

/-- Reads arguments in order.  The last one for a key counts. -/
def readAssignments (arguments : List String) : Except AssignmentFault (Dictionary String) :=
  (arguments.mapM readAssignment).map Dictionary.ofList

/-- Writes texts under their keys. -/
def extendTexts (values : KeywordValues) (texts : List (String × String)) : KeywordValues :=
  values.setAll (texts.map fun (key, text) => (key, .string text))

def validDelimiters (config : Config) : Except Failure Delimiters :=
  config.delimiters.validate.mapError Failure.delimiters

def readTemplate (path : String) : Script String :=
  .readText path (.templateUnreadable path)

/-- The text of a filled in template.  Values on the command line win over those in a file, which
win over those of the configuration. -/
def render [Regex.Limits] (documents : DocumentReaders) (orders : Orders) (config : Config)
    (template : String) (assignments : List String) (values : Option String) : Script String := do
  let delimiters ← .orFail (validDelimiters config)
  let source ← readTemplate template
  let configured := extendTexts .empty (orders.configured.entries config.values)
  let loaded ← loadOptionalValues documents values
  let assigned ← .orFail ((readAssignments assignments).mapError Failure.assignment)
  let all := extendTexts (configured.extend loaded) (orders.assigned.entries assigned)
  .orBreakOff ((Template.parse delimiters .builtin source).populateValues all)

end Stencil.CommandLine
