import Stencil.Template.Delimiters

namespace Stencil

/-! The modifier calls that a chain writes.

A chain is cut at every modifier delimiter and a call at every parameter delimiter that no
backslash escapes.
-/

/-- Cuts a text at each separator that is not escaped, into the first part and the others.
`escaped` says that a backslash has taken the next character. -/
def cutUnescaped (separator : Char) (escaped : Bool) : List Char → List Char × List (List Char)
  | [] => ([], [])
  | c :: rest =>
      if !escaped && c != '\\' && c = separator then
        let (part, parts) := cutUnescaped separator false rest
        ([], part :: parts)
      else
        let (part, parts) := cutUnescaped separator (!escaped && c = '\\') rest
        (c :: part, parts)

/-- The parts of a text between the separators that are not escaped.  There is always one. -/
def splitUnescaped (separator : Char) (text : List Char) : List (List Char) :=
  let (part, parts) := cutUnescaped separator false text
  part :: parts

/-- The form in which modifiers are known: the letters of a name, in lowercase. -/
def normalizeName (name : String) : String :=
  String.ofList ((name.toList.filter Unicode.isAlphabetic).flatMap Unicode.lower)

structure ModifierCall where
  name : String
  params : List String
deriving DecidableEq

namespace ModifierCall

/-- The call of a modifier under a name as it is written. -/
def named (name : String) (params : List String) : ModifierCall :=
  ⟨normalizeName name, params⟩

/-- The call that one part of a chain writes. -/
def ofSource (d : Delimiters) (source : List Char) : ModifierCall :=
  let (name, params) := cutUnescaped d.parameter false source
  named (String.ofList name) (params.map fun param => String.ofList (d.unescape param))

/-- The calls of a chain.  An empty part writes none. -/
def ofChain (d : Delimiters) (chain : List Char) : List ModifierCall :=
  ((splitUnescaped d.modifier chain).filter (!·.isEmpty)).map (ofSource d)

/-- The call in a line of a listing: its name, and its parameters in parentheses if it has any. -/
def described (call : ModifierCall) : String :=
  if call.params.isEmpty then call.name
  else call.name ++ "(" ++ ", ".intercalate call.params ++ ")"

end ModifierCall

end Stencil
