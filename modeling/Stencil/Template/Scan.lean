import Stencil.Regex.Expr
import Stencil.Template.Delimiters
import Stencil.Text.Utf8

namespace Stencil

open Unicode

/-! Finding the keywords of a template.

A keyword is the opening delimiter, a name, perhaps the modifier delimiter and a chain of modifiers,
and the closing delimiter.  A backslash takes the next character into the name or the chain whatever
it is, except that white space never belongs to a name.  A template is read from left to right as a
sequence of pieces; its text is the concatenation of their sources (`source_pieces`).
-/

/-- What the delimiters of a keyword enclose. -/
structure KeywordBody where
  name : List Char
  chain : Option (List Char)
deriving DecidableEq

namespace Delimiters

variable (d : Delimiters)

/-- Takes the characters of a name off the front of a text. -/
def takeName : List Char → List Char × List Char
  | [] => ([], [])
  | ['\\'] => ([], ['\\'])
  | '\\' :: c :: rest =>
      if isWhiteSpace c then ([], '\\' :: c :: rest)
      else ('\\' :: c :: (takeName rest).1, (takeName rest).2)
  | c :: rest =>
      if isWhiteSpace c || c = d.closing || c = d.modifier then ([], c :: rest)
      else (c :: (takeName rest).1, (takeName rest).2)

/-- Takes the characters of a chain off the front of a text. -/
def takeChain : List Char → List Char × List Char
  | [] => ([], [])
  | ['\\'] => ([], ['\\'])
  | '\\' :: c :: rest => ('\\' :: c :: (takeChain rest).1, (takeChain rest).2)
  | c :: rest =>
      if c = d.closing then ([], c :: rest)
      else (c :: (takeChain rest).1, (takeChain rest).2)

/-- Reads the rest of a keyword after its name. -/
def afterName? : List Char → Option (Option (List Char) × List Char)
  | [] => none
  | c :: rest =>
      if c = d.closing then some (none, rest)
      else if c = d.modifier then
        match (d.takeChain rest).2 with
        | [] => none
        | stop :: after =>
            if stop = d.closing then some (some (d.takeChain rest).1, after) else none
      else none

/-- Reads a keyword that begins at the front of a text. -/
def keyword? : List Char → Option (KeywordBody × List Char)
  | [] => none
  | c :: rest =>
      if c = d.opening ∧ (d.takeName rest).1 ≠ [] then
        (d.afterName? (d.takeName rest).2).map fun (chain, after) =>
          (⟨(d.takeName rest).1, chain⟩, after)
      else none

/-- The form of a keyword as a regular expression, for callers that have an engine of their own.
Its groups are the name and, if there is one, the chain, in both of which a backslash takes the next
character. -/
def keywordPattern : List Char :=
  let opening := Regex.quoteChar d.opening
  let closing := Regex.quoteChar d.closing
  let modifier := Regex.quoteChar d.modifier
  let name := "((?:\\\\\\S|[^\\s\\\\".toList ++ closing ++ modifier ++ "])+)".toList
  let chain := "((?:\\\\.|[^\\\\".toList ++ closing ++ "])*)".toList
  "(?s)".toList ++ opening ++ name ++ "(?:".toList ++ modifier ++ chain ++ ")?".toList ++ closing

end Delimiters

/-- The text of an optional chain, with the delimiter that sets it off. -/
def Delimiters.chainSource (d : Delimiters) : Option (List Char) → List Char
  | none => []
  | some chain => d.modifier :: chain

/-- The text of a keyword, delimiters included. -/
def KeywordBody.source (d : Delimiters) (body : KeywordBody) : List Char :=
  d.opening :: body.name ++ d.chainSource body.chain ++ [d.closing]

namespace Delimiters

variable {d : Delimiters}

theorem takeName_append (text : List Char) : (d.takeName text).1 ++ (d.takeName text).2 = text := by
  fun_induction d.takeName text <;> simp_all

theorem takeChain_append (text : List Char) :
    (d.takeChain text).1 ++ (d.takeChain text).2 = text := by
  fun_induction d.takeChain text <;> simp_all

theorem afterName?_source {text after : List Char} {chain : Option (List Char)}
    (found : d.afterName? text = some (chain, after)) :
    text = d.chainSource chain ++ d.closing :: after := by
  unfold afterName? at found
  split at found
  · contradiction
  · next c rest =>
      split at found
      · next closes =>
          simp only [Option.some.injEq, Prod.mk.injEq] at found
          obtain ⟨rfl, rfl⟩ := found
          simp [chainSource, closes]
      · split at found
        · next modifies =>
            split at found
            · contradiction
            · next stop tail split =>
                split at found
                · next closes =>
                    simp only [Option.some.injEq, Prod.mk.injEq] at found
                    obtain ⟨rfl, rfl⟩ := found
                    have whole := takeChain_append (d := d) rest
                    rw [split] at whole
                    simp [chainSource, modifies, ← closes, whole]
                · contradiction
        · contradiction

theorem keyword?_source {text after : List Char} {body : KeywordBody}
    (found : d.keyword? text = some (body, after)) : text = body.source d ++ after := by
  unfold keyword? at found
  split at found
  · contradiction
  · next c rest =>
      split at found
      · next begins =>
          obtain ⟨⟨chain, left⟩, named, made⟩ := Option.map_eq_some_iff.mp found
          simp only [Prod.mk.injEq] at made
          obtain ⟨rfl, rfl⟩ := made
          have whole := takeName_append (d := d) rest
          rw [afterName?_source named] at whole
          simp only [KeywordBody.source, List.cons_append, List.append_assoc, begins.1,
            List.nil_append]
          exact congrArg (d.opening :: ·) whole.symm
      · contradiction

theorem keyword?_shorter {text after : List Char} {body : KeywordBody}
    (found : d.keyword? text = some (body, after)) : after.length < text.length := by
  rw [keyword?_source found]
  simp [KeywordBody.source]
  omega

end Delimiters

/-- A template is made of single characters that are copied and of keywords. -/
inductive Piece where
  | literal (c : Char)
  | keyword (body : KeywordBody)
deriving DecidableEq

namespace Piece

def source (d : Delimiters) : Piece → List Char
  | .literal c => [c]
  | .keyword body => body.source d

end Piece

/-- Reads a template.  At every place a keyword is taken if one begins there. -/
def Delimiters.pieces (d : Delimiters) : List Char → List Piece
  | [] => []
  | c :: rest =>
      match _found : d.keyword? (c :: rest) with
      | some (body, after) => .keyword body :: d.pieces after
      | none => .literal c :: d.pieces rest
termination_by text => text.length
decreasing_by
  · exact Delimiters.keyword?_shorter (by assumption)
  · simp

theorem source_pieces (d : Delimiters) (text : List Char) :
    (d.pieces text).flatMap (Piece.source d) = text := by
  fun_induction d.pieces text with
  | case1 => rfl
  | case2 c rest body after found restIH =>
      rw [List.flatMap_cons, restIH]
      exact (Delimiters.keyword?_source found).symm
  | case3 c rest _ restIH => rw [List.flatMap_cons, restIH]; rfl

/-- One keyword of a template with its place there, counted in bytes. -/
structure Occurrence where
  source : String
  /-- The unescaped and folded name. -/
  keyword : String
  /-- The chain as it is written, empty if there is none. -/
  chain : String
  start : Nat
  stop : Nat
deriving DecidableEq

namespace Occurrence

/-- The occurrence of a keyword that starts at the given byte. -/
def ofBody (d : Delimiters) (start : Nat) (body : KeywordBody) : Occurrence :=
  { source := String.ofList (body.source d)
    keyword := d.foldName (String.ofList (d.unescape body.name))
    chain := String.ofList (body.chain.getD [])
    start
    stop := start + Text.width (body.source d) }

/-- The keywords among pieces that start at the given byte. -/
def ofPieces (d : Delimiters) (start : Nat) : List Piece → List Occurrence
  | [] => []
  | .literal c :: rest => ofPieces d (start + c.utf8Size) rest
  | .keyword body :: rest =>
      let occurrence := ofBody d start body
      occurrence :: ofPieces d occurrence.stop rest

end Occurrence

def Delimiters.scan (d : Delimiters) (template : String) : List Occurrence :=
  Occurrence.ofPieces d 0 (d.pieces template.toList)

end Stencil
