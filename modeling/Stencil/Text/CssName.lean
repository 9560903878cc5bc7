namespace Stencil.Text

/-! Names for style classes.

A name consists of word characters, underscores and hyphens, begins with a word character that is
not a digit, and has no more than two underscores and hyphens in a row.
-/

/-- ASCII letters and digits, and the two characters that differ from an ASCII letter in case
only. -/
def isCssWord (c : Char) : Bool :=
  c.isAlphanum || c = '\u017F' || c = '\u212A'

def isSeparator (c : Char) : Bool :=
  c = '_' || c = '-'

def isCssChar (c : Char) : Bool :=
  isCssWord c || isSeparator c

def dropEndWhile (test : Char → Bool) (text : List Char) : List Char :=
  (text.reverse.dropWhile test).reverse

/-- Puts an underscore in place of every run of characters that no name may hold.  `inRun` says
that the run so far has been replaced already. -/
def replaceInvalidFrom (inRun : Bool) : List Char → List Char
  | [] => []
  | c :: rest =>
      if isCssChar c then c :: replaceInvalidFrom false rest
      else if inRun then replaceInvalidFrom true rest
      else '_' :: replaceInvalidFrom true rest

/-- Puts an underscore in place of every run of three or more separators.  `pending` holds the
separators directly before the text. -/
def shortenFrom (pending : List Char) : List Char → List Char
  | [] => if 3 ≤ pending.length then ['_'] else pending
  | c :: rest =>
      if isSeparator c then shortenFrom (pending ++ [c]) rest
      else (if 3 ≤ pending.length then ['_'] else pending) ++ c :: shortenFrom [] rest

def cssName (text : List Char) : List Char :=
  let core := dropEndWhile (!isCssChar ·) (text.dropWhile (!isCssWord ·))
  let named := if core.head?.any Char.isDigit then 'A' :: '_' :: core else core
  shortenFrom [] (replaceInvalidFrom false named)

end Stencil.Text
