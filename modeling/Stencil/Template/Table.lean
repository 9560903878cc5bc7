import Stencil.Template.Scan
import Stencil.Modifier.Registry

namespace Stencil

/-! Compiled templates: literal text and keyword slots in the order of the source, and a table of
the slots of each keyword. -/

/-- One keyword of a template with its resolved chain. -/
structure Slot where
  source : String
  chain : Chain

/-- The slots of each keyword in the order of the source, the keywords in the order in which they
first occur. -/
structure KeywordTable where
  entries : List (String × List Slot)

namespace KeywordTable

def empty : KeywordTable := ⟨[]⟩

/-- Adds a slot and says where it is: the place of its keyword, and its place there. -/
def insertEntry (keyword : String) (slot : Slot) :
    List (String × List Slot) → List (String × List Slot) × Nat × Nat
  | [] => ([(keyword, [slot])], 0, 0)
  | (other, slots) :: rest =>
      if other = keyword then ((other, slots ++ [slot]) :: rest, 0, slots.length)
      else
        let (entries, place, index) := insertEntry keyword slot rest
        ((other, slots) :: entries, place + 1, index)

def insert (table : KeywordTable) (keyword : String) (slot : Slot) : KeywordTable × Nat × Nat :=
  let (entries, place, index) := insertEntry keyword slot table.entries
  (⟨entries⟩, place, index)

def keywords (table : KeywordTable) : List String :=
  table.entries.map (·.1)

def slots (table : KeywordTable) (keyword : String) : List Slot :=
  ((table.entries.find? (·.1 == keyword)).map (·.2)).getD []

def size (table : KeywordTable) : Nat :=
  table.entries.length

def slotCount (table : KeywordTable) : Nat :=
  (table.entries.flatMap (·.2)).length

/-- The slot at a place that `insert` has given, with its keyword. -/
def slot? (table : KeywordTable) (place index : Nat) : Option (String × Slot) := do
  let (keyword, slots) ← table.entries[place]?
  let slot ← slots[index]?
  return (keyword, slot)

end KeywordTable

/-- A stretch of a compiled template. -/
inductive Segment where
  | literal (text : List Char)
  /-- The slot at a place in the table. -/
  | slot (place index : Nat)

/-- The parts of a template that has keywords. -/
structure Layout where
  caseSensitive : Bool
  segments : List Segment
  table : KeywordTable

/-- A parsed template.  One without keywords stands for its own text. -/
structure Template where
  text : String
  layout : Option Layout

namespace Template

instance : Inhabited Template := ⟨"", none⟩

def hasKeywords (template : Template) : Bool :=
  template.layout.isSome

/-- The slot that a keyword compiles to. -/
def slotOf (d : Delimiters) (registry : Registry) (body : KeywordBody) : Slot where
  source := String.ofList (body.source d)
  chain := Chain.ofCalls registry (ModifierCall.ofChain d (body.chain.getD []))

/-- Puts one character in front of the segments, into the literal that stands there if there is
one. -/
def pushLiteral (c : Char) : List Segment → List Segment
  | .literal text :: rest => .literal (c :: text) :: rest
  | segments => .literal [c] :: segments

/-- Compiles pieces after a table of earlier slots. -/
def compile (d : Delimiters) (registry : Registry) (table : KeywordTable) :
    List Piece → List Segment × KeywordTable
  | [] => ([], table)
  | .literal c :: rest =>
      let (segments, table) := compile d registry table rest
      (pushLiteral c segments, table)
  | .keyword body :: rest =>
      let keyword := d.foldName (String.ofList (d.unescape body.name))
      let (table, place, index) := table.insert keyword (slotOf d registry body)
      let (segments, table) := compile d registry table rest
      (.slot place index :: segments, table)

/-- Parses a template, resolving its modifiers through the registry. -/
def parse (d : Delimiters) (registry : Registry) (text : String) : Template :=
  let (segments, table) := compile d registry .empty (d.pieces text.toList)
  if table.entries.isEmpty then ⟨text, none⟩
  else ⟨text, some ⟨d.caseSensitive, segments, table⟩⟩

end Template

end Stencil
