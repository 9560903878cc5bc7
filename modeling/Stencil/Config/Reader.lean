import Stencil.Config.Basic
import Stencil.Yaml.Reader

namespace Stencil

/-! Reading the settings of a configuration file from a YAML document.

Fields that mean nothing here are ignored; one that has a meaning occurs once.
-/

namespace Yaml.Node

def occurrences (name : String) (fields : List (String × Node)) : List Node :=
  (fields.filter (·.1 == name)).map (·.2)

/-- Reads a field that may be missing but does not occur twice. -/
def optional? (name : String) (read? : Node → Option α) (fields : List (String × Node)) :
    Option (Option α) :=
  match occurrences name fields with
  | [] => some none
  | [node] => (read? node).map some
  | _ => none

/-- Reads a field that occurs once. -/
def required? (name : String) (read? : Node → Option α) (fields : List (String × Node)) :
    Option α :=
  match occurrences name fields with
  | [node] => read? node
  | _ => none

end Yaml.Node

open Yaml.Node in
def DelimiterFields.ofNode? (node : Yaml.Node) : Option DelimiterFields := do
  let fields ← node.fields?
  return {
    keyword := ← optional? "kwd_delim" text? fields
    modifier := ← optional? "mod_delim" text? fields
    parameter := ← optional? "param_delim" text? fields
    caseSensitive := ← optional? "case_sensitive" boolean? fields }

open Yaml.Node in
def Logging.ofNode? (node : Yaml.Node) : Option Logging := do
  let fields ← node.fields?
  return {
    level := ← required? "level" text? fields
    format := ← required? "format" text? fields }

namespace FileSettings

/-- The entries of a mapping from texts to texts. -/
def textsOf? (node : Yaml.Node) : Option (Dictionary String) := do
  let fields ← node.fields?
  let entries ← fields.mapM fun (key, value) => value.text?.map fun text => (key, text)
  return .ofList entries

open Yaml.Node in
def ofNode? (node : Yaml.Node) : Option FileSettings := do
  let fields ← node.fields?
  return {
    delimiters := ← optional? "delimiters" DelimiterFields.ofNode? fields
    values := ← optional? "values" textsOf? fields
    logging := ← optional? "logging" Logging.ofNode? fields }

def parse? (source : String) : Option FileSettings :=
  Yaml.parse? source.toList >>= ofNode?

end FileSettings

end Stencil
