import Stencil.Markup.Pattern
import Stencil.Unicode.WhiteSpace
import Stencil.Unicode.Word

namespace Stencil.Markup

open Unicode Pattern

/-! Stripping markup: comments, CDATA sections, elements, tags and event attributes.

Names of elements and attributes are matched in any case.  A construct that is not closed stays as
it is.
-/

def exactly (text : String) : Pattern :=
  match text.toList with
  | [] => char fun _ => false
  | first :: rest => word first rest

def isTagEnd (c : Char) : Bool := c = '>'

def tagRest : Pattern :=
  through (char isTagEnd)

/-- A tag that opens an element: the name and, unless the name goes on, the rest of the tag. -/
def openTag (start : String) : Pattern :=
  seq (exactly start) (barring isWord tagRest)

/-- A tag that closes an element; only white space may stand after the name. -/
def closeTag (start : String) : Pattern :=
  seq (exactly start) (skipping isWhiteSpace (char isTagEnd))

def comment : Pattern :=
  orElse (seq (exactly "<!--") (through (exactly "-->")))
    (seq (exactly "/*") (through (exactly "*/")))

def cdataSection : Pattern :=
  seq (exactly "<![CDATA[") (through (exactly "]]>"))

/-- A CDATA section with the line comment sign that may stand in front of it. -/
def cdata : Pattern :=
  orElse (seq (exactly "//") (skipping (fun c => c = '\t' || c = ' ') cdataSection)) cdataSection

def scriptElement : Pattern :=
  seq (openTag "<script") (through (closeTag "</script"))

def styleElement : Pattern :=
  seq (openTag "<style") (through (closeTag "</style"))

def imageTag : Pattern :=
  openTag "<img"

def linkOpen : Pattern :=
  seq (exactly "<a") (seq (char isWhiteSpace) tagRest)

def linkClose : Pattern :=
  closeTag "</a"

def linkTag : Pattern :=
  orElse linkOpen linkClose

def linkElement : Pattern :=
  seq linkOpen (through linkClose)

/-- Any tag: an angle bracket, at least one character, and the closing bracket. -/
def anyTag : Pattern :=
  seq (char (· = '<')) (barring isTagEnd tagRest)

/-- Everything up to the first place where a pattern matches. -/
def textBefore (pattern : Pattern) : List Char → List Char
  | [] => []
  | c :: rest =>
      if (pattern.after? (c :: rest)).isSome then [] else c :: textBefore pattern rest

/-- Keeps what stands between the opening and the closing tag of a page's body; a tag that is
missing cuts nothing off. -/
def stripNonBody (text : List Char) : List Char :=
  textBefore (closeTag "</body") (((openTag "<body").findAfter? text).getD text)

/-- A letter of the names of elements and attributes: ASCII letters, and the two characters that
differ from one of them in case only. -/
def isNameLetter (c : Char) : Bool :=
  c.isAlpha || c = '\u017F' || c = '\u212A'

def quotedText (quote : Char) : Pattern :=
  seq (char (· = quote)) (through (char (· = quote)))

/-- The value of an attribute: in quotes if the quote is closed, otherwise up to white space. -/
def attributeValue : Pattern :=
  orElse (orElse (quotedText '"') (quotedText '\''))
    (run fun c => !isWhiteSpace c && c != '>')

/-- An attribute whose name begins with `on`, with its value and the white space around. -/
def eventAttribute : Pattern :=
  skipping isWhiteSpace
    (seq (exactly "on")
      (seq (run isNameLetter)
        (skipping isWhiteSpace
          (seq (char (· = '=')) (skipping isWhiteSpace attributeValue)))))

/-- Tests whether a name may begin after a character: there is none, or it belongs to no name. -/
def endsName (before : Option Char) : Bool :=
  !before.any isWord

/-- The last character that a match has taken. -/
def lastTaken (text after : List Char) : Option Char :=
  (text.take (text.length - after.length)).getLast?

/-- The rest after an event attribute that begins here.  Its name may not be the end of a longer
one; white space in front of it makes that sure. -/
def eventAfter? (before : Option Char) (text : List Char) : Option (List Char) :=
  if endsName before || text.head?.any isWhiteSpace then eventAttribute.after? text else none

theorem eventAfter?_shorter {before : Option Char} {text after : List Char}
    (found : eventAfter? before text = some after) : after.length < text.length := by
  unfold eventAfter? at found
  split at found
  · exact eventAttribute.shorter found
  · contradiction

/-- Removes the event attributes from the inside of a tag that follows the character `before`. -/
def removeEvents (before : Option Char) : List Char → List Char
  | [] => []
  | c :: rest =>
      match _found : eventAfter? before (c :: rest) with
      | some after => removeEvents (lastTaken (c :: rest) after) after
      | none => c :: removeEvents (some c) rest
termination_by text => text.length
decreasing_by
  · exact eventAfter?_shorter (by assumption)
  · simp

/-- The start of a tag that can have attributes: its name and one character of white space. -/
def attributeTagHead : Pattern :=
  seq (char (· = '<'))
    (seq (char isNameLetter)
      (skipping (fun c => isNameLetter c || c.isDigit) (char isWhiteSpace)))

def stripEvents : List Char → List Char
  | [] => []
  | c :: rest =>
      match _found : attributeTagHead.after? (c :: rest) with
      | some inside =>
          (c :: rest).take ((c :: rest).length - inside.length) ++
            removeEvents none (inside.takeWhile fun d => !isTagEnd d) ++
            stripEvents (inside.dropWhile fun d => !isTagEnd d)
      | none => c :: stripEvents rest
termination_by text => text.length
decreasing_by
  · exact Nat.lt_of_le_of_lt (length_dropWhile_le _ _) (attributeTagHead.shorter (by assumption))
  · simp

end Stencil.Markup
