namespace Stencil.Text

/-! Rewriting of spaces, and limiting of blank lines.

A line break is a carriage return with a line feed, in either order, or one of the two alone.
-/

def replaceChar (old new : Char) (text : List Char) : List Char :=
  text.map fun c => if c = old then new else c

/-- A space, a tab or a character of a line break. -/
def isBlank (c : Char) : Bool :=
  c = '\r' || c = '\n' || c = '\t' || c = ' '

/-- Puts one space in place of every run of blanks.  `inRun` says that the blanks so far have been
replaced already. -/
def collapseFrom (inRun : Bool) : List Char → List Char
  | [] => []
  | c :: rest =>
      if isBlank c then
        if inRun then collapseFrom true rest else ' ' :: collapseFrom true rest
      else c :: collapseFrom false rest

/-- Puts one space in place of every run of blanks. -/
def collapseBlanks (text : List Char) : List Char :=
  collapseFrom false text

def isBreakChar (c : Char) : Bool :=
  c = '\r' || c = '\n'

def isLineSpace (c : Char) : Bool :=
  c = '\t' || c = ' '

/-- Removes the tabs and spaces directly before line breaks.  `pending` holds those directly before
the text. -/
def stripLineEndsFrom (pending : List Char) : List Char → List Char
  | [] => pending
  | c :: rest =>
      if isLineSpace c then stripLineEndsFrom (pending ++ [c]) rest
      else if isBreakChar c then c :: stripLineEndsFrom [] rest
      else pending ++ c :: stripLineEndsFrom [] rest

/-- Removes the tabs and spaces directly before line breaks. -/
def stripLineEnds (text : List Char) : List Char :=
  stripLineEndsFrom [] text

/-- The first `count` line breaks of a run of break characters of which at least one character is
to remain behind them.  Two characters are one break wherever enough characters remain for the
other breaks. -/
def firstBreaks : Nat → List Char → List Char
  | 0, _ => []
  | _ + 1, [] => []
  | count + 1, [c] => c :: firstBreaks count []
  | count + 1, c :: next :: rest =>
      if c ≠ next ∧ count < rest.length then c :: next :: firstBreaks count rest
      else c :: firstBreaks count (next :: rest)

/-- Cuts a run of break characters that is longer than `limit` to its first `limit` breaks. -/
def limitRun (limit : Nat) (run : List Char) : List Char :=
  if limit < run.length then firstBreaks limit run else run

/-- Cuts every run of line breaks.  `pending` holds the break characters directly before the
text. -/
def limitBreaksFrom (limit : Nat) (pending : List Char) : List Char → List Char
  | [] => limitRun limit pending
  | c :: rest =>
      if isBreakChar c then limitBreaksFrom limit (pending ++ [c]) rest
      else limitRun limit pending ++ c :: limitBreaksFrom limit [] rest

/-- Leaves at most `limit` line breaks in a row. -/
def limitBreaks (limit : Nat) (text : List Char) : List Char :=
  limitBreaksFrom limit [] (stripLineEnds text)

end Stencil.Text
