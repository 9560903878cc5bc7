import Stencil.Yaml.Node
import Stencil.Yaml.Scalar

namespace Stencil.Yaml

/-! Reading a YAML document of mappings, sequences and scalars in block and flow style.

The indentation of a block collection is the column of its first character.  A line further to the
left ends it, one further to the right belongs to the entry before.  Tags, anchors and block
scalars are refused, and so is a second document.
-/

def skipFlow (inComment : Bool) : List Char → List Char
  | [] => []
  | c :: rest =>
      if c = '\n' then skipFlow false rest
      else if inComment || isBlank c then skipFlow inComment rest
      else if c = '#' then skipFlow true rest
      else c :: rest

/-- The text from the next line on, if nothing but a comment is left of this one. -/
def nextLine? (text : List Char) : Option (List Char) :=
  match skipBlanks text with
  | [] => some []
  | '\n' :: rest => some rest
  | '#' :: rest => some (rest.dropWhile (· != '\n')).tail
  | _ => none

def startsValue (flow : Bool) : List Char → Bool
  | ':' :: rest => flow || endsWord rest
  | _ => false

def startsItem : List Char → Bool
  | '-' :: rest => endsWord rest
  | _ => false

mutual

/-- Reads a scalar or a flow collection.  Also says whether it is a scalar on a single line, which
can be a key.  Outside flow collections plain scalars go on at the column `least`. -/
def readFlow (flow : Bool) (least : Nat) : Nat → Reader (Node × Bool)
  | 0, _ => none
  | fuel + 1, text =>
      match text with
      | '[' :: rest => (readItems fuel rest).map fun (items, rest) =>
          ((.sequence items, false), rest)
      | '\x7b' :: rest => (readEntries fuel rest).map fun (entries, rest) =>
          ((.mapping entries, false), rest)
      | '"' :: rest => (readQuoted '"' rest).map fun (scalar, rest) =>
          ((.scalar false (String.ofList scalar.content), !scalar.broken), rest)
      | '\'' :: rest => (readQuoted '\'' rest).map fun (scalar, rest) =>
          ((.scalar false (String.ofList scalar.content), !scalar.broken), rest)
      | _ => (readPlain flow least text).map fun (scalar, rest) =>
          ((.scalar true (String.ofList scalar.content), !scalar.broken), rest)

def readFlowValue : Nat → Reader Node
  | 0, _ => none
  | fuel + 1, text =>
      match skipFlow false text with
      | [] => none
      | c :: rest =>
          if c = ',' ∨ c = ']' ∨ c = '\x7d' then some (.empty, c :: rest)
          else (readFlow true 0 fuel (c :: rest)).map fun ((node, _), rest) => (node, rest)

/-- Reads the items of a flow sequence.  A key with a value is a mapping of its own. -/
def readItems : Nat → Reader (List Node)
  | 0, _ => none
  | fuel + 1, text =>
      match skipFlow false text with
      | ']' :: rest => some ([], rest)
      | start => do
          let ((node, isKey), rest) ← readFlow true 0 fuel start
          let (item, rest) ←
            if startsValue true (skipBlanks rest) then
              if isKey then
                (readFlowValue fuel (skipBlanks rest).tail).map fun (value, rest) =>
                  (Node.mapping [(node, value)], rest)
              else none
            else some (node, rest)
          match skipFlow false rest with
          | ',' :: rest => (readItems fuel rest).map fun (items, rest) => (item :: items, rest)
          | ']' :: rest => return ([item], rest)
          | _ => none

def readEntries : Nat → Reader (List (Node × Node))
  | 0, _ => none
  | fuel + 1, text =>
      match skipFlow false text with
      | '\x7d' :: rest => some ([], rest)
      | start => do
          let ((key, isKey), rest) ← readFlow true 0 fuel start
          let (value, rest) ←
            if startsValue true (skipBlanks rest) then
              if isKey then readFlowValue fuel (skipBlanks rest).tail else none
            else some (Node.empty, rest)
          match skipFlow false rest with
          | ',' :: rest =>
              (readEntries fuel rest).map fun (entries, rest) => ((key, value) :: entries, rest)
          | '\x7d' :: rest => return ([(key, value)], rest)
          | _ => none

end

/-- What the next line with content holds. -/
inductive Line where
  | ended
  | content (column : Nat) (text : List Char)

/-- Finds the next line with content.  Lines are not indented with tabs, and no further document
may start. -/
def nextContent : Nat → List Char → Option Line
  | 0, _ => none
  | fuel + 1, text =>
      let column := (text.takeWhile (· = ' ')).length
      match text.dropWhile (· = ' ') with
      | [] => some .ended
      | '\n' :: rest => nextContent fuel rest
      | '#' :: rest => nextContent fuel (rest.dropWhile (· != '\n'))
      | '\t' :: _ => none
      | content =>
          if column = 0 ∧ isDocumentMark content then
            if content.head? = some '.' then do
              let rest ← nextLine? (content.drop 3)
              match ← nextContent fuel rest with
              | .ended => return .ended
              | .content .. => none
            else none
          else some (.content column content)

mutual

/-- Reads a node that starts at a column, where a block collection may start.  Reads up to the
start of a line. -/
def readBlock (least : Nat) : Nat → Nat → Reader Node
  | 0, _, _ => none
  | fuel + 1, column, text =>
      if startsItem text then
        (readSequence column fuel text).map fun (items, rest) => (.sequence items, rest)
      else do
        let ((node, isKey), rest) ← readFlow false least (text.length + 1) text
        if startsValue false (skipBlanks rest) then
          if isKey then
            (readMapping column fuel node (skipBlanks rest).tail).map fun (entries, rest) =>
              (.mapping entries, rest)
          else none
        else (nextLine? rest).map fun rest => (node, rest)

def readSequence (column : Nat) : Nat → Reader (List Node)
  | 0, _ => none
  | fuel + 1, text => do
      let inside := text.tail
      let blanks := (inside.takeWhile (· = ' ')).length
      let start := inside.dropWhile (· = ' ')
      let (item, rest) ←
        match start with
        | '\t' :: _ => none
        | _ =>
            match nextLine? start with
            | some rest => readBelow (column + 1) fuel rest
            | none => readBlock (column + 1) fuel (column + 1 + blanks) start
      match ← nextContent (rest.length + 1) rest with
      | .content next text =>
          if column < next then none
          else if next = column && startsItem text then
            (readSequence column fuel text).map fun (items, rest) => (item :: items, rest)
          else return ([item], rest)
      | .ended => return ([item], rest)

/-- Reads the entries of a block mapping at a column, from the colon after its first key on. -/
def readMapping (column : Nat) : Nat → Node → Reader (List (Node × Node))
  | 0, _, _ => none
  | fuel + 1, key, text => do
      let (value, rest) ←
        match nextLine? text with
        | some rest =>
            match ← nextContent (rest.length + 1) rest with
            | .content next start =>
                if next = column && startsItem start then
                  (readSequence column fuel start).map fun (items, rest) =>
                    (Node.sequence items, rest)
                else readBelow (column + 1) fuel rest
            | .ended => some (Node.empty, rest)
        | none => do
            let ((node, _), rest) ←
              readFlow false (column + 1) (text.length + 1) (skipBlanks text)
            let rest ← nextLine? rest
            pure (node, rest)
      match ← nextContent (rest.length + 1) rest with
      | .content next text =>
          if column < next then none
          else if next < column then return ([(key, value)], rest)
          else do
            let ((nextKey, isKey), rest) ← readFlow false (column + 1) (text.length + 1) text
            let afterKey := skipBlanks rest
            if isKey && startsValue false afterKey then
              (readMapping column fuel nextKey afterKey.tail).map fun (entries, rest) =>
                ((key, value) :: entries, rest)
            else none
      | .ended => return ([(key, value)], rest)

/-- Reads a node on the following lines, if they are indented up to the column `least`. -/
def readBelow (least : Nat) : Nat → Reader Node
  | 0, _ => none
  | fuel + 1, text => do
      match ← nextContent (text.length + 1) text with
      | .content column start =>
          if least ≤ column then readBlock least fuel column start
          else return (.empty, text)
      | .ended => return (.empty, text)

end

/-- Writes every line break as a line feed. -/
def normalizeBreaks : List Char → List Char
  | '\r' :: '\n' :: rest => '\n' :: normalizeBreaks rest
  | c :: rest => (if c = '\r' ∨ c = '\u0085' then '\n' else c) :: normalizeBreaks rest
  | [] => []

/-- Tests for the characters that a document can be made of. -/
def isPrintable (c : Char) : Bool :=
  c = '\t' || c = '\n' || (0x20 ≤ c.toNat && c.toNat ≤ 0x7E) ||
    (0xA0 ≤ c.toNat && c != '\uFEFF' && c != '\uFFFE' && c != '\uFFFF')

/-- Reads the node of a document after the line that may announce it. -/
def readRoot (text : List Char) : Reader Node := fun rest => do
  match ← nextContent (rest.length + 1) rest with
  | .content column start => readBlock 0 (4 * text.length + 4) column start
  | .ended => return (.empty, [])

def readDocument (text : List Char) : Reader Node := fun rest =>
  let start := skipFlow false rest
  if isDocumentMark start && start.head? = some '-' then do
    match nextLine? (start.drop 3) with
    | some rest => readRoot text rest
    | none => do
        let ((node, _), rest) ← readFlow false 0 (text.length + 1) (skipBlanks (start.drop 3))
        let rest ← nextLine? rest
        return (node, rest)
  else readRoot text rest

/-- Reads a document, or gives `none` for a text that is not one.  A text without content is a
document whose node is not written. -/
def parse? (text : List Char) : Option Node := do
  let lines := normalizeBreaks (if text.head? = some '\uFEFF' then text.tail else text)
  if lines.any (fun c => !isPrintable c) then none
  else
    let (node, rest) ← readDocument lines lines
    match ← nextContent (rest.length + 1) rest with
    | .ended => return node
    | .content .. => none

end Stencil.Yaml
