import Stencil.Template.Table
import Stencil.Template.KeywordValues

namespace Stencil

/-! Filling in a template.

Every slot is replaced by the text of its keyword's value after the slot's chain, or by nothing if
the keyword has no value.  All slots are replaced at once: text that was filled in is not read
again.
-/

namespace Layout

/-- A caller's key as the table knows it. -/
def foldKey (layout : Layout) (key : String) : String :=
  if layout.caseSensitive then key else String.ofList (Unicode.uppercase key.toList)

end Layout

/-- The value of the last entry with the given key. -/
def lastValue? (key : String) : List (String × Value) → Option Value
  | [] => none
  | (other, value) :: rest =>
      match lastValue? key rest with
      | some later => some later
      | none => if other = key then some value else none

namespace Segment

/-- The text of a segment for entries with folded keys, unless a modifier breaks off. -/
def render? (table : KeywordTable) (entries : List (String × Value)) :
    Segment → Option (List Char)
  | .literal text => some text
  | .slot place index =>
      match table.slot? place index with
      | none => some []
      | some (keyword, found) =>
          match lastValue? keyword entries with
          | none => some []
          | some value => (found.chain.apply value).map Value.text

end Segment

namespace Template

/-- The text for the given entries, or `none` if a modifier breaks off. -/
def render? (template : Template) (entries : List (String × Value)) : Option String :=
  match template.layout with
  | none => some template.text
  | some layout => do
      let folded := entries.map fun (key, value) => (layout.foldKey key, value)
      let texts ← layout.segments.mapM (Segment.render? layout.table folded)
      return String.ofList texts.flatten

/-- The entries that a value gives to a template.  Without keywords any value will do. -/
def entriesOf (template : Template) (values : Value) :
    Except ArgumentFault (List (String × Value)) :=
  if template.hasKeywords then
    match values with
    | .object fields => .ok fields
    | _ => .error (.notMapping values.kind)
  else .ok []

/-- Fills a template in with the fields of an object. -/
def populate (template : Template) (values : Value) : Except ArgumentFault (Option String) :=
  (template.entriesOf values).map template.render?

/-- Fills a template in with a mapping whose entries may come in any order. -/
def populateMap (template : Template) (entries : List (String × Value)) : Option String :=
  template.render? entries

def populateValues (template : Template) (values : KeywordValues) : Option String :=
  template.render? values.entries

end Template

/-- The lines of a listing of a template's keywords: each name with the calls of its chain. -/
def keywordLines (d : Delimiters) (template : String) : List String :=
  (d.scan template).map fun occurrence =>
    " -> ".intercalate
      (occurrence.keyword ::
        (ModifierCall.ofChain d occurrence.chain.toList).map ModifierCall.described)

end Stencil
