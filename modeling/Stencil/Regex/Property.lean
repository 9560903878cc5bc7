import Stencil.Regex.CharClass
import Stencil.Unicode.Category
import Stencil.Unicode.Script
import Stencil.Unicode.ScriptExtension
import Stencil.Unicode.Binary
import Stencil.Unicode.Alphabetic
import Stencil.Unicode.CaseContext
import Stencil.Unicode.WhiteSpace
import Stencil.Unicode.Word

namespace Stencil.Regex

open Unicode

/-! Character properties by name.

Names are compared without regard to case, spaces, hyphens, underscores and an `is` in front.
-/

namespace Property

def normalize (name : List Char) : String :=
  let plain (text : List Char) : List Char :=
    (text.filter fun c => c != ' ' && c != '_' && c != '-' && c.toNat < 0x80).map Char.toLower
  match name with
  | i :: s :: rest =>
      if i.toLower = 'i' ∧ s.toLower = 's' then
        if plain rest = ['c'] then "isc" else String.ofList (plain rest)
      else String.ofList (plain name)
  | _ => String.ofList (plain name)

def categories (members : List Category) : CharClass :=
  .unions (members.map fun category => .table category.ranges)

def letters : List Category :=
  [.uppercaseLetter, .lowercaseLetter, .titlecaseLetter, .modifierLetter, .otherLetter]

def assigned : CharClass :=
  categories Category.all

def categoryNames : List (List String × List Category) := [
  (["l", "letter"], letters),
  (["lc", "casedletter"], [.uppercaseLetter, .lowercaseLetter, .titlecaseLetter]),
  (["lu", "uppercaseletter"], [.uppercaseLetter]),
  (["ll", "lowercaseletter"], [.lowercaseLetter]),
  (["lt", "titlecaseletter"], [.titlecaseLetter]),
  (["lm", "modifierletter"], [.modifierLetter]),
  (["lo", "otherletter"], [.otherLetter]),
  (["m", "mark", "combiningmark"], [.nonspacingMark, .spacingMark, .enclosingMark]),
  (["mn", "nonspacingmark"], [.nonspacingMark]),
  (["mc", "spacingmark"], [.spacingMark]),
  (["me", "enclosingmark"], [.enclosingMark]),
  (["n", "number"], [.decimalNumber, .letterNumber, .otherNumber]),
  (["nd", "decimalnumber", "digit"], [.decimalNumber]),
  (["nl", "letternumber"], [.letterNumber]),
  (["no", "othernumber"], [.otherNumber]),
  (["p", "punctuation", "punct"],
    [.connectorPunctuation, .dashPunctuation, .openPunctuation, .closePunctuation,
      .initialPunctuation, .finalPunctuation, .otherPunctuation]),
  (["pc", "connectorpunctuation"], [.connectorPunctuation]),
  (["pd", "dashpunctuation"], [.dashPunctuation]),
  (["ps", "openpunctuation"], [.openPunctuation]),
  (["pe", "closepunctuation"], [.closePunctuation]),
  (["pi", "initialpunctuation"], [.initialPunctuation]),
  (["pf", "finalpunctuation"], [.finalPunctuation]),
  (["po", "otherpunctuation"], [.otherPunctuation]),
  (["s", "symbol"], [.mathSymbol, .currencySymbol, .modifierSymbol, .otherSymbol]),
  (["sm", "mathsymbol"], [.mathSymbol]),
  (["sc", "currencysymbol"], [.currencySymbol]),
  (["sk", "modifiersymbol"], [.modifierSymbol]),
  (["so", "othersymbol"], [.otherSymbol]),
  (["z", "separator"], [.spaceSeparator, .lineSeparator, .paragraphSeparator]),
  (["zs", "spaceseparator"], [.spaceSeparator]),
  (["zl", "lineseparator"], [.lineSeparator]),
  (["zp", "paragraphseparator"], [.paragraphSeparator]),
  (["cc", "control", "cntrl"], [.control]),
  (["cf", "format"], [.format]),
  (["co", "privateuse"], [.privateUse])]

def lookup? {α : Type} (name : String) (entries : List (List String × α)) : Option α :=
  (entries.find? fun entry => entry.1.contains name).map (·.2)

def identifierStart : List Category :=
  letters ++ [.letterNumber]

def identifierContinue : List Category :=
  identifierStart ++ [.nonspacingMark, .spacingMark, .decimalNumber, .connectorPunctuation]

/-- The properties that are made of categories and further tables, with their names. -/
def derivedProperties : List (List String × CharClass) := [
  (["alphabetic", "alpha"], .table alphabeticRanges),
  (["lowercase", "lower"], .union (categories [.lowercaseLetter]) (.table otherLowercase)),
  (["uppercase", "upper"], .union (categories [.uppercaseLetter]) (.table otherUppercase)),
  (["whitespace", "wspace", "space"], .table whiteSpaceRanges),
  (["cased"], .table casedRanges),
  (["caseignorable", "ci"], .table caseIgnorableRanges),
  (["math"], .union (categories [.mathSymbol]) (.table otherMath)),
  (["dash"], .union (categories [.dashPunctuation]) (.table otherDash)),
  (["idstart", "ids"],
    .union (.diff (categories identifierStart) (.table notIdStart)) (.table otherIdStart)),
  (["idcontinue", "idc"],
    .union (.diff (categories identifierContinue) (.table notIdContinue))
      (.table otherIdContinue)),
  (["xidstart", "xids"],
    .union (.diff (categories identifierStart) (.table notXidStart)) (.table otherXidStart)),
  (["xidcontinue", "xidc"],
    .union (.diff (categories identifierContinue) (.table notXidContinue))
      (.table otherXidContinue))]

/-- A general category, or one of the sets that are known like one. -/
def category? (name : String) : Option CharClass :=
  if name = "any" then some .all
  else if name = "ascii" then some (.range '\x00' '\x7f')
  else if name = "assigned" then some assigned
  else if name = "cn" ∨ name = "unassigned" then some (.negate assigned)
  else if name = "c" ∨ name = "other" then
    some (.union (categories [.control, .format, .privateUse]) (.negate assigned))
  else (lookup? name categoryNames).map categories

def script? (name : String) : Option CharClass :=
  (lookup? name scripts).map .table

/-- The characters that are used with a script. -/
def scriptExtension? (name : String) : Option CharClass := do
  let (names, ranges) ← scripts.find? fun entry => entry.1.contains name
  let code ← names.head?
  return .union (.diff (.table ranges) (.table extendedRanges)) (.table (extendedRangesOf code))

def binary? (name : String) : Option CharClass :=
  if name = "cf" ∨ name = "sc" ∨ name = "lc" then none
  else (lookup? name derivedProperties).or ((lookup? name tabledProperties).map .table)

/-- The class of a property that is given by one name. -/
def named? (name : List Char) : Option CharClass :=
  let key := normalize name
  (binary? key).or ((category? key).or (script? key))

/-- The class of a property that is given with a value. -/
def valued? (property value : List Char) : Option CharClass :=
  let key := normalize property
  if key = "generalcategory" ∨ key = "gc" then category? (normalize value)
  else if key = "script" ∨ key = "sc" then script? (normalize value)
  else if key = "scriptextensions" ∨ key = "scx" then scriptExtension? (normalize value)
  else none

end Property

/-- Decimal digits of every script. -/
def digitClass : CharClass :=
  .table Category.decimalNumberRanges

def spaceClass : CharClass :=
  .table whiteSpaceRanges

def wordClass : CharClass :=
  .union (.table alphabeticRanges) (.table wordExtraRanges)

def asciiDigitClass : CharClass :=
  .range '0' '9'

def asciiSpaceClass : CharClass :=
  .union (.range '\t' '\r') (.single ' ')

def asciiWordClass : CharClass :=
  .ofBounds [('0', '9'), ('A', 'Z'), ('_', '_'), ('a', 'z')]

def asciiClass? (name : String) : Option CharClass :=
  match name with
  | "alnum" => some (.ofBounds [('0', '9'), ('A', 'Z'), ('a', 'z')])
  | "alpha" => some (.ofBounds [('A', 'Z'), ('a', 'z')])
  | "ascii" => some (.range '\x00' '\x7f')
  | "blank" => some (.ofBounds [('\t', '\t'), (' ', ' ')])
  | "cntrl" => some (.ofBounds [('\x00', '\x1f'), ('\x7f', '\x7f')])
  | "digit" => some asciiDigitClass
  | "graph" => some (.range '!' '~')
  | "lower" => some (.range 'a' 'z')
  | "print" => some (.range ' ' '~')
  | "punct" => some (.ofBounds [('!', '/'), (':', '@'), ('[', '\x60'), ('\x7b', '~')])
  | "space" => some asciiSpaceClass
  | "upper" => some (.range 'A' 'Z')
  | "word" => some asciiWordClass
  | "xdigit" => some (.ofBounds [('0', '9'), ('A', 'F'), ('a', 'f')])
  | _ => none

end Stencil.Regex
