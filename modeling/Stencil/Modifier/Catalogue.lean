import Stencil.Modifier.Arithmetic
import Stencil.Modifier.Cleanup
import Stencil.Modifier.Pattern
import Stencil.Text.Capitals
import Stencil.Text.FormEncoding

namespace Stencil

/-! The modifiers that templates can use without further ado. -/

namespace Modifier

/-- The modifiers of letter case and spacing, with their names. -/
def spellingFamily : List (List String × Modifier) :=
  [ (["lowercase"], text Unicode.lowercase)
  , (["uppercase"], text Unicode.uppercase)
  , (["titleize", "heading"], text Text.titleize)
  , (["capitalize", "sentence"], text Text.capitalizeSentences)
  , (["space"], text (Text.replaceChar '_' ' '))
  , (["underscore"], text (Text.replaceChar ' ' '_'))
  , (["trim"], text Unicode.trim)
  , (["nomultispace", "singlespace"], text Text.collapseBlanks)
  , (["urlencode"], text Text.formEncode)
  , (["urldecode"], text Text.formDecode) ]

def branchFamily : List (List String × Modifier) :=
  [ (["empty"], emptiness true)
  , (["notempty"], emptiness false)
  , (["match", "equals"], matching)
  , (["notmatch"], notMatching)
  , (["contains"], containing)
  , (["doesntcontain", "doesntcontains"], notContaining)
  , (["gt"], greater)
  , (["gte"], greaterOrEqual)
  , (["lt"], less)
  , (["lte"], lessOrEqual) ]

def arithmeticFamily : List (List String × Modifier) :=
  [ (["add"], add)
  , (["subtract"], subtract)
  , (["multiply"], multiply)
  , (["divide"], divide)
  , (["increment"], increment)
  , (["decrement"], decrement)
  , (["round"], round)
  , (["ceil"], ceil)
  , (["floor"], floor) ]

def patternFamily [Regex.Limits] : List (List String × Modifier) :=
  [ (["pregmatch"], patternTest true)
  , (["notpregmatch"], patternTest false)
  , (["pregreplace"], patternReplace) ]

def markupFamily : List (List String × Modifier) :=
  [ (["stripcomments", "stripcomment", "nocomments", "nocomment"],
      text (Markup.comment.removeAll))
  , (["stripcdata"], text (Markup.cdata.removeAll))
  , (["stripscript"], text (Markup.scriptElement.removeAll))
  , (["stripstyle"], text (Markup.styleElement.removeAll))
  , (["stripimage"], text (Markup.imageTag.removeAll))
  , (["striplink"], text (Markup.linkTag.removeAll))
  , (["stripwholelink"], text (Markup.linkElement.removeAll))
  , (["stripnonbody"], text Markup.stripNonBody)
  , (["striptags"], text (Markup.anyTag.removeAll))
  , (["striponevent"], text Markup.stripEvents)
  , ([plainTextName, "plaintext"], plainText) ]

def cleanupFamily : List (List String × Modifier) :=
  [ (["class", "id", "csssafe"], text Text.cssName)
  , (["nolines"], noLines)
  , (["maxwords", "words"], maxWords)
  , (["maxsentences", "sentences"], maxSentences)
  , (["maxchars", "characters", "chars"], maxChars) ]

def dateFamily : List (List String × Modifier) :=
  [ (["dateformat", "formatdate"], dateFormat) ]

/-- Every modifier with all of its names. -/
def catalogue [Regex.Limits] : List (List String × Modifier) :=
  spellingFamily ++ branchFamily ++ arithmeticFamily ++ patternFamily ++ markupFamily ++
    cleanupFamily ++ dateFamily

end Modifier

namespace Registry

def registerAll (registry : Registry) (names : List String) (modifier : Modifier) : Registry :=
  names.foldl (fun registry name => registry.register name modifier) registry

def builtin [Regex.Limits] : Registry :=
  Modifier.catalogue.foldl (fun registry entry => registry.registerAll entry.1 entry.2) empty

end Registry

end Stencil
