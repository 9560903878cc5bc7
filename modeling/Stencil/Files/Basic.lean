namespace Stencil

/-! Files and directories.

Places are named from the root on, and every file and every directory but the root is in a
directory.  A path leads from the root or from the working directory to a place, through directories
only.
-/

inductive FileFault where
  | notFound
  | notDirectory
  | isDirectory
  /-- The system refuses for a reason of its own. -/
  | refused (reason : String)
deriving DecidableEq

/-- The parts of a path between its slashes. -/
def pathParts : List Char → List (List Char)
  | [] => [[]]
  | c :: rest =>
      if c = '/' then [] :: pathParts rest
      else
        match pathParts rest with
        | [] => [[c]]
        | part :: parts => (c :: part) :: parts

def fileName? (path : String) : Option (List Char) :=
  match ((pathParts path.toList).filter fun part => !part.isEmpty && part != ['.']).getLast? with
  | none => none
  | some part => if part = ['.', '.'] then none else some part

/-- The part of a file's name behind its last dot, unless the dot starts the name. -/
def fileExtension? (path : String) : Option (List Char) := do
  let name ← fileName? path
  let reversed := name.reverse
  let ending := reversed.takeWhile (· != '.')
  if 1 < reversed.length - ending.length then return ending.reverse else none

/-- The names that lead from the root to a file or a directory. -/
abbrev Place := List String

/-- What is at a place. -/
inductive Content where
  | text (text : String)
  /-- A file that does not hold a text. -/
  | bytes (bytes : List UInt8)
  | directory
  | nothing
deriving DecidableEq

structure Files where
  content : Place → Content
  working : Place
  /-- Why the system refuses to read the file at a place. -/
  unreadable? : Place → Option String
  /-- Why the system refuses to write a file at a place. -/
  unwritable? : Place → Option String
  root_directory : content [] = .directory
  working_directory : content working = .directory
  enclosed : ∀ place, content place ≠ .nothing → content place.dropLast = .directory

namespace Files

/-- There is nothing but the directories that lead to the working directory. -/
def bare (working : Place) : Files where
  content place := if place.isPrefixOf working then .directory else .nothing
  working := working
  unreadable? _ := none
  unwritable? _ := none
  root_directory := rfl
  working_directory := if_pos (List.isPrefixOf_iff_prefix.mpr (List.prefix_refl working))
  enclosed place there := by
    have isAbove : place.isPrefixOf working = true := by
      refine Decidable.byContradiction fun notAbove => there ?_
      rw [if_neg notAbove]
    have parentAbove : place.dropLast <+: working :=
      (List.dropLast_prefix place).trans (List.isPrefixOf_iff_prefix.mp isAbove)
    rw [if_pos (List.isPrefixOf_iff_prefix.mpr parentAbove)]

/-- Puts something at a place in a directory, but not instead of a directory. -/
def put (files : Files) (place : Place) (content : Content)
    (inDirectory : files.content place.dropLast = .directory)
    (noDirectory : files.content place ≠ .directory) : Files :=
  have kept {other : Place} (isDirectory : files.content other = .directory) :
      (if other = place then content else files.content other) = .directory := by
    have different : other ≠ place := fun same => noDirectory (same ▸ isDirectory)
    rw [if_neg different, isDirectory]
  { files with
    content := fun other => if other = place then content else files.content other
    root_directory := kept files.root_directory
    working_directory := kept files.working_directory
    enclosed := fun other there => by
      by_cases here : other = place
      · rw [here]
        exact kept inDirectory
      · rw [if_neg here] at there
        exact kept (files.enclosed other there) }

/-- The place to which one part of a path leads from a directory. -/
def step (start : Place) (part : List Char) : Place :=
  if part.isEmpty || part = ['.'] then start
  else if part = ['.', '.'] then start.dropLast
  else start ++ [String.ofList part]

/-- Follows the parts of a path from a place. -/
def follow (files : Files) (start : Place) : List (List Char) → Except FileFault Place
  | [] => .ok start
  | part :: rest =>
      match files.content start with
      | .directory => files.follow (step start part) rest
      | .nothing => .error .notFound
      | _ => .error .notDirectory

/-- The place to which a path leads. -/
def locate (files : Files) (path : String) : Except FileFault Place :=
  if path.isEmpty then .error .notFound
  else
    files.follow (if path.toList.head? = some '/' then [] else files.working)
      (pathParts path.toList)

theorem enclosed_of_follow {files : Files} {start place : Place} {parts : List (List Char)}
    (inDirectory : files.content start.dropLast = .directory)
    (followed : files.follow start parts = .ok place) :
    files.content place.dropLast = .directory := by
  induction parts generalizing start with
  | nil =>
      cases followed
      exact inDirectory
  | cons part rest restIH =>
      rw [follow] at followed
      split at followed
      · next isDirectory =>
          refine restIH ?_ followed
          unfold step
          split
          · exact inDirectory
          · split
            · exact files.enclosed _ (by rw [inDirectory]; exact nofun)
            · rwa [List.dropLast_concat]
      · cases followed
      · cases followed

/-- A path leads to a place in a directory, whatever is at this place. -/
theorem enclosed_of_locate {files : Files} {path : String} {place : Place}
    (located : files.locate path = .ok place) : files.content place.dropLast = .directory := by
  have above {start : Place} (isDirectory : files.content start = .directory) :
      files.content start.dropLast = .directory :=
    files.enclosed start (by rw [isDirectory]; exact nofun)
  rw [locate] at located
  split at located
  · cases located
  · split at located
    · exact enclosed_of_follow (above files.root_directory) located
    · exact enclosed_of_follow (above files.working_directory) located

/-- Tests if a path leads to a file or a directory. -/
def isThere (files : Files) (path : String) : Bool :=
  match files.locate path with
  | .ok place => files.content place != .nothing
  | .error _ => false

def read (files : Files) (path : String) : Except FileFault String := do
  let place ← files.locate path
  match files.content place, files.unreadable? place with
  | .nothing, _ => throw .notFound
  | .directory, _ => throw .isDirectory
  | _, some reason => throw (.refused reason)
  | .bytes _, none => throw (.refused "stream did not contain valid UTF-8")
  | .text text, none => return text

/-- Writes a text into a file, which need not be there before. -/
def write (files : Files) (path text : String) : Except FileFault Files :=
  match located : files.locate path with
  | .error fault => .error fault
  | .ok place =>
      if isDirectory : files.content place = .directory then .error .isDirectory
      else
        match files.unwritable? place with
        | some reason => .error (.refused reason)
        | none => .ok (files.put place (.text text) (enclosed_of_locate located) isDirectory)

end Files

end Stencil
