import Stencil.Regex.Expr
import Stencil.Regex.Property
import Stencil.Text.HexDigit
import Stencil.Unicode.Numeric

namespace Stencil.Regex

open Unicode

/-! Reading regular expressions.

A text that is no regular expression is refused.  Flags are worked into the parts they apply to, so
that the expression read does not depend on them any more.
-/

structure Flags where
  ignoreCase : Bool := false
  multiLine : Bool := false
  dotMatchesLineFeed : Bool := false
  swapGreed : Bool := false
  crlf : Bool := false
  unicode : Bool := true
  verbose : Bool := false

/-- What has been read so far: the flags that hold here and the groups up to here. -/
structure ReaderState where
  flags : Flags := {}
  groupCount : Nat := 0
  groupNames : List (String × Nat) := []

def skipComment (text : List Char) : List Char :=
  (text.dropWhile (· != '\n')).drop 1

theorem skipComment_length (text : List Char) : (skipComment text).length ≤ text.length := by
  rw [skipComment, List.length_drop]
  exact Nat.le_trans (Nat.sub_le _ _) (List.dropWhile_sublist _).length_le

/-- Drops white space and comments. -/
def skipVerbose : List Char → List Char
  | [] => []
  | c :: rest =>
      if isWhiteSpace c then skipVerbose rest
      else if c = '#' then skipVerbose (skipComment rest)
      else c :: rest
termination_by text => text.length
decreasing_by
  · simp
  · exact Nat.lt_succ_of_le (skipComment_length rest)

/-- Drops what the flags say has no meaning here. -/
def Flags.skip (flags : Flags) (text : List Char) : List Char :=
  if flags.verbose then skipVerbose text else text

/-- Characters that may follow a backslash to stand for themselves. -/
def isEscapable (c : Char) : Bool :=
  isMeta c || (c.toNat < 0x80 && !c.isAlphanum && c != '<' && c != '>')

def charOfCode? (code : Nat) : Option Char :=
  if code.isValidChar then some (Char.ofNat code) else none

def readHexDigits (flags : Flags) : Nat → Nat → List Char → Option (Nat × List Char)
  | 0, value, text => some (value, text)
  | count + 1, value, text =>
      match flags.skip text with
      | [] => none
      | c :: rest => do
          let digit ← Text.hexDigitValue? c
          readHexDigits flags count (16 * value + digit) rest

def readBracedHex (flags : Flags) : Nat → Option Nat → List Char → Option (Nat × List Char)
  | 0, _, _ => none
  | fuel + 1, value, text =>
      match flags.skip text with
      | [] => none
      | '\x7d' :: rest => value.map fun value => (value, rest)
      | c :: rest => do
          let digit ← Text.hexDigitValue? c
          readBracedHex flags fuel (some (16 * value.getD 0 + digit)) rest

/-- A single character as an expression writes it.  `byte` marks two-digit hexadecimal escapes,
which mean bytes where characters are bytes. -/
structure Literal where
  char : Char
  byte : Bool := false

/-- What a backslash and the text after it stand for. -/
inductive Escape where
  | literal (literal : Literal)
  | set (chars : CharClass)
  | look (condition : Look)

/-- Reads a character by its code point, after the letter that announces it. -/
def readHexEscape (flags : Flags) (digits : Nat) (text : List Char) :
    Option (Escape × List Char) :=
  match flags.skip text with
  | '\x7b' :: rest => do
      let (code, rest) ← readBracedHex flags (rest.length + 1) none rest
      let c ← charOfCode? code
      return (.literal { char := c }, rest)
  | text => do
      let (code, rest) ← readHexDigits flags digits 0 text
      let c ← charOfCode? code
      return (.literal { char := c, byte := digits = 2 }, rest)

def cutAt? (separator : List Char) : List Char → Option (List Char × List Char)
  | [] => none
  | c :: rest =>
      if separator.isPrefixOf (c :: rest) then some ([], (c :: rest).drop separator.length)
      else (cutAt? separator rest).map fun (before, after) => (c :: before, after)

/-- The class that a property in braces stands for, and whether its name negates it. -/
def propertyClass? (content : List Char) : Option (CharClass × Bool) :=
  match cutAt? ['!', '='] content with
  | some (property, value) => (Property.valued? property value).map fun set => (set, true)
  | none =>
      match (cutAt? [':'] content).or (cutAt? ['='] content) with
      | some (property, value) => (Property.valued? property value).map fun set => (set, false)
      | none => (Property.named? content).map fun set => (set, false)

/-- Reads the text in braces after a property escape. -/
def readBracedName (flags : Flags) : Nat → List Char → Option (List Char × List Char)
  | 0, _ => none
  | fuel + 1, text =>
      match flags.skip text with
      | [] => none
      | '\x7d' :: rest => some ([], rest)
      | c :: rest => (readBracedName flags fuel rest).map fun (name, rest) => (c :: name, rest)

/-- A class in which the case of letters does not count if the flags say so. -/
def Flags.caseClass (flags : Flags) (set : CharClass) : CharClass :=
  if !flags.ignoreCase then set
  else if flags.unicode then .anyCase set
  else .anyAsciiCase set

/-- The complement of a class if it is negated.  Where characters are bytes it must not hold
anything beyond ASCII. -/
def Flags.negateClass? (flags : Flags) (negated : Bool) (set : CharClass) : Option CharClass :=
  let result := if negated then .negate set else set
  if flags.unicode || result.isAsciiOnly then some result else none

/-- Reads the name of a property, in braces or a single letter, and finds its class. -/
def readPropertyName (flags : Flags) (text : List Char) :
    Option ((CharClass × Bool) × List Char) :=
  match flags.skip text with
  | [] => none
  | '\x7b' :: rest => do
      let (content, rest) ← readBracedName flags (rest.length + 1) rest
      let found ← propertyClass? content
      return (found, rest)
  | c :: rest =>
      if c = '\\' then none
      else (Property.named? [c]).map fun set => ((set, false), rest)

def readProperty (flags : Flags) (negated : Bool) (text : List Char) :
    Option (Escape × List Char) := do
  let ((set, inverse), rest) ← readPropertyName flags text
  if flags.unicode then
    let set ← flags.negateClass? (negated != inverse) (flags.caseClass set)
    return (.set set, rest)
  else none

def letterClass? (unicode : Bool) (c : Char) : Option CharClass :=
  match c.toLower with
  | 'd' => some (if unicode then digitClass else asciiDigitClass)
  | 's' => some (if unicode then spaceClass else asciiSpaceClass)
  | 'w' => some (if unicode then wordClass else asciiWordClass)
  | _ => none

/-- The conditions that can be named in braces after a word edge. -/
def namedEdge? (ascii : Bool) (name : String) : Option Look :=
  match name with
  | "start" => some (.wordStart ascii)
  | "end" => some (.wordEnd ascii)
  | "start-half" => some (.wordStartHalf ascii)
  | "end-half" => some (.wordEndHalf ascii)
  | _ => none

def isEdgeNameChar (c : Char) : Bool :=
  c.isAlpha || c = '-'

/-- Reads the letters of a name up to the closing brace. -/
def readEdgeName (flags : Flags) : Nat → List Char → Option (List Char × List Char)
  | 0, _ => none
  | fuel + 1, text =>
      match flags.skip text with
      | '\x7d' :: rest => some ([], rest)
      | c :: rest =>
          if isEdgeNameChar c then
            (readEdgeName flags fuel rest).map fun (name, rest) => (c :: name, rest)
          else none
      | [] => none

/-- Reads what follows a word edge: a name in braces makes it a special one; braces that do not
begin like a name are left for a count. -/
def readWordEdge (flags : Flags) (text : List Char) : Option (Escape × List Char) :=
  let ascii := !flags.unicode
  match text with
  | '\x7b' :: rest =>
      match flags.skip rest with
      | [] => none
      | c :: more =>
          if isEdgeNameChar c then do
            let (name, rest) ← readEdgeName flags (more.length + 2) (c :: more)
            let condition ← namedEdge? ascii (String.ofList name)
            return (.look condition, rest)
          else some (.look (.wordEdge ascii), text)
  | _ => some (.look (.wordEdge ascii), text)

def readEscape (flags : Flags) : List Char → Option (Escape × List Char)
  | [] => none
  | c :: rest =>
      let ascii := !flags.unicode
      let control (code : Nat) : Option (Escape × List Char) :=
        some (.literal { char := Char.ofNat code }, rest)
      match c with
      | 'x' => readHexEscape flags 2 rest
      | 'u' => readHexEscape flags 4 rest
      | 'U' => readHexEscape flags 8 rest
      | 'p' => readProperty flags false rest
      | 'P' => readProperty flags true rest
      | 'a' => control 0x07
      | 'f' => control 0x0C
      | 't' => control 0x09
      | 'n' => control 0x0A
      | 'r' => control 0x0D
      | 'v' => control 0x0B
      | 'A' => some (.look .textStart, rest)
      | 'z' => some (.look .textEnd, rest)
      | 'b' => readWordEdge flags rest
      | 'B' => some (.look (.noWordEdge ascii), rest)
      | '<' => some (.look (.wordStart ascii), rest)
      | '>' => some (.look (.wordEnd ascii), rest)
      | _ =>
          match letterClass? flags.unicode c with
          | some set => (flags.negateClass? c.isUpper set).map fun set => (.set set, rest)
          | none => if isEscapable c then some (.literal { char := c }, rest) else none

/-- The character that a literal means, unless it means a byte that is no character. -/
def Flags.literalChar? (flags : Flags) (literal : Literal) : Option Char :=
  if !flags.unicode && literal.byte && 0x80 ≤ literal.char.toNat then none else some literal.char

/-- The character that a literal means inside brackets. -/
def Flags.classChar? (flags : Flags) (literal : Literal) : Option Char :=
  if !flags.unicode && 0x80 ≤ literal.char.toNat then none else some literal.char

/-- One item inside brackets, before it is known whether it begins a range. -/
def readClassItem (flags : Flags) : List Char → Option (Escape × List Char)
  | [] => none
  | '\\' :: rest => readEscape flags rest
  | c :: rest => some (.literal { char := c }, rest)

/-- Reads an item or a range of characters inside brackets.  A hyphen before a closing bracket or
another hyphen makes no range. -/
def readClassRange (flags : Flags) (text : List Char) : Option (CharClass × List Char) := do
  let (item, rest) ← readClassItem flags text
  let single : Option CharClass :=
    match item with
    | .literal literal => (flags.classChar? literal).map .single
    | .set set => some set
    | .look _ => none
  match flags.skip rest with
  | [] => none
  | '-' :: more =>
      match flags.skip more with
      | [] => none
      | next :: after =>
          if next = ']' || next = '-' then
            let set ← single
            return (set, '-' :: more)
          else
            let (last, rest) ← readClassItem flags (next :: after)
            match item, last with
            | .literal first, .literal last =>
                let first ← flags.classChar? first
                let last ← flags.classChar? last
                if first ≤ last then return (.range first last, rest) else none
            | _, _ => none
  | rest =>
      let set ← single
      return (set, rest)

/-- Reads an ASCII class written by name, after its opening bracket. -/
def readAsciiClass? (flags : Flags) : List Char → Option (CharClass × List Char)
  | ':' :: rest => do
      let (negated, rest) := match rest with
        | '^' :: rest => (true, rest)
        | rest => (false, rest)
      let name := rest.takeWhile (· != ':')
      match rest.dropWhile (· != ':') with
      | ':' :: ']' :: rest =>
          let set ← asciiClass? (String.ofList name)
          let set := flags.caseClass set
          return (if negated then .negate set else set, rest)
      | _ => none
  | _ => none

inductive ClassOp where
  | inter
  | diff
  | symmDiff

def readClassOp? : List Char → Option (ClassOp × List Char)
  | '&' :: '&' :: rest => some (.inter, rest)
  | '-' :: '-' :: rest => some (.diff, rest)
  | '~' :: '~' :: rest => some (.symmDiff, rest)
  | _ => none

/-- What stands to the left of the part that is being read. -/
abbrev PendingClass := Option (ClassOp × CharClass)

/-- Joins a part with what stands to its left. -/
def Flags.joinPending (flags : Flags) (pending : PendingClass) (part : CharClass) : CharClass :=
  match pending with
  | none => part
  | some (op, left) =>
      let left := flags.caseClass left
      let right := flags.caseClass part
      match op with
      | .inter => .inter left right
      | .diff => .diff left right
      | .symmDiff => .symmDiff left right

/-- Reads the hyphens, or the closing bracket, that stand for themselves at the front. -/
def readClassFront (flags : Flags) : Nat → Bool → CharClass → List Char →
    Option (CharClass × List Char)
  | 0, _, _, _ => none
  | fuel + 1, atFront, part, text =>
      match flags.skip text with
      | [] => none
      | '-' :: rest => readClassFront flags fuel false (.union part (.single '-')) rest
      | ']' :: rest =>
          if atFront then
            if (flags.skip rest).isEmpty then none else some (.single ']', rest)
          else some (part, ']' :: rest)
      | rest => some (part, rest)

mutual

def readClass (flags : Flags) : Nat → List Char → Option (CharClass × List Char)
  | 0, _ => none
  | fuel + 1, text => do
      let (negated, rest) := match flags.skip text with
        | '^' :: rest => (true, rest)
        | rest => (false, rest)
      let (front, rest) ← readClassFront flags (rest.length + 1) true .none rest
      let (set, rest) ← readClassBody flags fuel none front rest
      let set ← flags.negateClass? negated (flags.caseClass set)
      return (set, rest)

/-- Reads the items of a class up to its end. -/
def readClassBody (flags : Flags) : Nat → PendingClass → CharClass → List Char →
    Option (CharClass × List Char)
  | 0, _, _, _ => none
  | fuel + 1, pending, part, text =>
      let text := flags.skip text
      match text with
      | [] => none
      | ']' :: rest => some (flags.joinPending pending part, rest)
      | '[' :: rest =>
          match readAsciiClass? flags rest with
          | some (set, rest) => readClassBody flags fuel pending (.union part set) rest
          | none => do
              let (set, rest) ← readClass flags fuel rest
              readClassBody flags fuel pending (.union part set) rest
      | _ =>
          match readClassOp? text with
          | some (op, rest) =>
              readClassBody flags fuel (some (op, flags.joinPending pending part)) .none rest
          | none => do
              let (set, rest) ← readClassRange flags text
              readClassBody flags fuel pending (.union part set) rest

end

def readCount (flags : Flags) (text : List Char) : Option (Option Nat × List Char) :=
  let rec digits : Nat → Option Nat → List Char → Option Nat × List Char
    | 0, value, text => (value, text)
    | fuel + 1, value, text =>
        match text with
        | [] => (value, [])
        | c :: rest =>
            if c.isDigit then
              digits fuel (some (10 * value.getD 0 + (c.toNat - '0'.toNat))) (flags.skip rest)
            else (value, c :: rest)
  let (value, rest) := digits text.length none (text.dropWhile isWhiteSpace)
  if (value.getD 0) < UInt32.size then some (value, flags.skip (rest.dropWhile isWhiteSpace))
  else none

def readBounds (flags : Flags) (text : List Char) :
    Option (Nat × Option Nat × List Char) := do
  let (least, rest) ← readCount flags (flags.skip text)
  match rest with
  | '\x7d' :: rest => (least.map fun least => (least, some least, rest))
  | ',' :: rest =>
      match flags.skip rest with
      | '\x7d' :: rest => (least.map fun least => (least, none, rest))
      | rest => do
          let least ← least
          let (most, rest) ← readCount flags rest
          let most ← most
          match rest with
          | '\x7d' :: rest => if least ≤ most then return (least, some most, rest) else none
          | _ => none
  | _ => none

/-- Puts a repetition around the part read last.  Flags cannot be repeated. -/
def repeatLast (flags : Flags) (least : Nat) (most : Option Nat) (lazy : Bool) :
    List (Option Expr) → Option (List (Option Expr))
  | some part :: earlier =>
      some (some (.repeated least most (lazy == flags.swapGreed) part) :: earlier)
  | _ => none

/-- Reads the mark of a repetition that repeats as seldom as possible. -/
def readLazy : List Char → Bool × List Char
  | '?' :: rest => (true, rest)
  | text => (false, text)

/-- Sets or clears one flag. -/
def Flags.set? (flags : Flags) (letter : Char) (value : Bool) : Option Flags :=
  match letter with
  | 'i' => some { flags with ignoreCase := value }
  | 'm' => some { flags with multiLine := value }
  | 's' => some { flags with dotMatchesLineFeed := value }
  | 'U' => some { flags with swapGreed := value }
  | 'R' => some { flags with crlf := value }
  | 'u' => some { flags with unicode := value }
  | 'x' => some { flags with verbose := value }
  | _ => none

/-- Reads flags up to the character that ends them, which is given with the rest.  No flag occurs
twice, and a minus stands once and before a flag. -/
def readFlags : List Char → Bool → Flags → List Char → Option (Flags × Char × List Char)
  | _, _, _, [] => none
  | seen, negated, flags, c :: rest =>
      if c = ':' ∨ c = ')' then
        if seen.head? = some '-' then none else some (flags, c, rest)
      else if seen.contains c then none
      else if c = '-' then readFlags (c :: seen) true flags rest
      else do
        let flags ← flags.set? c (!negated)
        readFlags (c :: seen) negated flags rest

inductive GroupHead where
  /-- Not a group at all: the flags change from here on. -/
  | flags
  | plain
  | numbered (index : Nat)

def isGroupNameStart (c : Char) : Bool :=
  c = '_' || isAlphabetic c

def isGroupNameChar (c : Char) : Bool :=
  c = '_' || c = '.' || c = '[' || c = ']' || isAlphanumeric c

def readGroupName (state : ReaderState) (text : List Char) :
    Option (GroupHead × ReaderState × List Char) :=
  let name := text.takeWhile (· != '>')
  match text.dropWhile (· != '>') with
  | [] => none
  | _ :: rest =>
      let key := String.ofList name
      if (name.head?.all isGroupNameStart) && name.all isGroupNameChar && !name.isEmpty &&
          !(state.groupNames.any (·.1 == key)) then
        let index := state.groupCount + 1
        some (.numbered index,
          { state with groupCount := index, groupNames := (key, index) :: state.groupNames }, rest)
      else none

/-- Reads the beginning of a group after its opening parenthesis.  Looking ahead or behind is
refused. -/
def readGroupHead (state : ReaderState) (text : List Char) :
    Option (GroupHead × ReaderState × List Char) :=
  match state.flags.skip text with
  | '?' :: 'P' :: '<' :: rest => readGroupName state rest
  | '?' :: '<' :: '=' :: _ => none
  | '?' :: '<' :: '!' :: _ => none
  | '?' :: '<' :: rest => readGroupName state rest
  | '?' :: rest => do
      let (flags, stop, after) ← readFlags [] false state.flags rest
      if stop = ':' then return (.plain, { state with flags }, after)
      else if rest.head? = some ')' then none
      else return (.flags, { state with flags }, after)
  | rest =>
      let index := state.groupCount + 1
      some (.numbered index, { state with groupCount := index }, rest)

def Flags.charExpr (flags : Flags) (c : Char) : Expr :=
  .set (flags.caseClass (.single c))

/-- What a dot matches, unless characters are bytes. -/
def Flags.dot? (flags : Flags) : Option Expr :=
  if !flags.unicode then none
  else if flags.dotMatchesLineFeed then some (.set .all)
  else if flags.crlf then some (.set (.negate (.union (.single '\r') (.single '\n'))))
  else some (.set (.negate (.single '\n')))

def Flags.lineStart (flags : Flags) : Expr :=
  .look (if !flags.multiLine then .textStart
    else if flags.crlf then .lineStartCr else .lineStart)

def Flags.lineEnd (flags : Flags) : Expr :=
  .look (if !flags.multiLine then .textEnd else if flags.crlf then .lineEndCr else .lineEnd)

/-- The expression of an escape outside brackets. -/
def Flags.escapeExpr? (flags : Flags) : Escape → Option Expr
  | .literal literal =>
      (flags.literalChar? literal).map fun c =>
        if !flags.unicode && 0x80 ≤ c.toNat then .set (.single c) else flags.charExpr c
  | .set set => some (.set set)
  | .look condition => some (.look condition)

/-- The parts of a branch, which were collected from the last one on. -/
def joinParts (parts : List (Option Expr)) : Expr :=
  Expr.seqs (parts.reverse.filterMap id)

mutual

/-- Reads the branches of a group or of the whole expression, up to a closing parenthesis or the
end. -/
def readBranches : Nat → ReaderState → List Char → Option (Expr × ReaderState × List Char)
  | 0, _, _ => none
  | fuel + 1, state, text => do
      let (branch, state, rest) ← readParts fuel state [] text
      match rest with
      | '|' :: rest => do
          let (others, state, rest) ← readBranches fuel state rest
          return (.alt branch others, state, rest)
      | rest => return (branch, state, rest)

/-- Reads the parts of one branch after the parts that were read already. -/
def readParts : Nat → ReaderState → List (Option Expr) → List Char →
    Option (Expr × ReaderState × List Char)
  | 0, _, _, _ => none
  | fuel + 1, state, parts, text =>
      let flags := state.flags
      match flags.skip text with
      | [] => some (joinParts parts, state, [])
      | c :: rest =>
          match c with
          | ')' | '|' => some (joinParts parts, state, c :: rest)
          | '(' => do
              let (head, inner, rest) ← readGroupHead state rest
              match head with
              | .flags => readParts fuel inner (none :: parts) rest
              | .plain => readGroup fuel inner flags parts id rest
              | .numbered index => readGroup fuel inner flags parts (.group index) rest
          | '[' => do
              let (set, rest) ← readClass flags (2 * rest.length + 2) rest
              readParts fuel state (some (.set set) :: parts) rest
          | '?' => do
              let (lazy, rest) := readLazy rest
              let parts ← repeatLast flags 0 (some 1) lazy parts
              readParts fuel state parts rest
          | '*' => do
              let (lazy, rest) := readLazy rest
              let parts ← repeatLast flags 0 none lazy parts
              readParts fuel state parts rest
          | '+' => do
              let (lazy, rest) := readLazy rest
              let parts ← repeatLast flags 1 none lazy parts
              readParts fuel state parts rest
          | '\x7b' => do
              let (least, most, rest) ← readBounds flags rest
              let (lazy, rest) := readLazy (flags.skip rest)
              let parts ← repeatLast flags least most lazy parts
              readParts fuel state parts rest
          | '\\' => do
              let (escape, rest) ← readEscape flags rest
              let part ← flags.escapeExpr? escape
              readParts fuel state (some part :: parts) rest
          | '.' => do
              let part ← flags.dot?
              readParts fuel state (some part :: parts) rest
          | '^' => readParts fuel state (some flags.lineStart :: parts) rest
          | '$' => readParts fuel state (some flags.lineEnd :: parts) rest
          | _ => do
              let part ← flags.escapeExpr? (.literal { char := c })
              readParts fuel state (some part :: parts) rest

/-- Reads the inside of a group and its closing parenthesis, after which the flags are as they were
before it. -/
def readGroup : Nat → ReaderState → Flags → List (Option Expr) → (Expr → Expr) → List Char →
    Option (Expr × ReaderState × List Char)
  | 0, _, _, _, _, _ => none
  | fuel + 1, state, outer, parts, wrap, text => do
      let (inner, state, rest) ← readBranches fuel state text
      match rest with
      | ')' :: rest =>
          readParts fuel { state with flags := outer } (some (wrap inner) :: parts) rest
      | _ => none

end

/-- Reads a whole expression: the expression and the state at its end, which knows the groups. -/
def readExpr? (flags : Flags) (text : List Char) : Option (Expr × ReaderState) := do
  let (expr, state, rest) ← readBranches (4 * text.length + 4) { flags } text
  if rest.isEmpty then return (expr, state) else none

end Stencil.Regex
