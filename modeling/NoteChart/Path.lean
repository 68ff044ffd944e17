/-!
# Paths

A path is read into a root and the names below it. Doubled slashes and single dots say nothing and
are dropped; two dots are kept, since what they lead to depends on the directories there are. Two
slashes in front make a root of their own, which some systems know; more than two are one.

Any text is a path, but not every path can be the path of something: there is no null character in a
name, and names and paths have a length that they do not exceed, counted in bytes. A path is refused
for its own length at once. A name is not known to be too long before the directory that it would be
in has been found, which is why `beforeLongName?` keeps the path of that directory.
-/

namespace NoteChart

/-- A path. -/
structure Path where
  /-- The slashes in front: none for a relative path, else one or two. -/
  root : String
  names : List String
deriving DecidableEq

namespace Path

/-- Splits a text at its slashes. -/
def splitSlashes : List Char → List (List Char)
  | [] => [[]]
  | c :: rest =>
    if c = '/' then [] :: splitSlashes rest
    else
      match splitSlashes rest with
      | [] => [[c]]
      | name :: more => (c :: name) :: more

/-- Reads a path. -/
def ofString (text : String) : Path :=
  let chars := text.toList
  let slashes := (chars.takeWhile (· == '/')).length
  { root := if slashes = 0 then "" else if slashes = 2 then "//" else "/"
    names := ((splitSlashes chars).map String.ofList).filter fun name ↦ name != "" && name != "." }

/-- The text of a path; the empty one is a dot. -/
def toString (path : Path) : String :=
  if path.root = "" ∧ path.names = [] then "." else path.root ++ "/".intercalate path.names

/-- The path starts at a root. -/
def isAbsolute (path : Path) : Bool := path.root != ""

/-- There is a null character in the path, so that it cannot be the path of anything. -/
def hasNull (path : Path) : Bool := path.names.any (·.toList.contains '\x00')

/-- A name is too long for a file or a directory: it has more than 255 bytes. -/
def isLongName (name : String) : Bool := 255 < name.utf8ByteSize

/-- A path is too long as a whole: it is written in more than 4095 bytes. -/
def isTooLong (path : Path) : Bool := 4095 < path.toString.utf8ByteSize

/-- The path in front of the first name that is too long, if there is such a name. -/
def beforeLongName? (path : Path) : Option Path :=
  if path.names.any isLongName then
    some { path with names := path.names.takeWhile (!isLongName ·) }
  else none

/-- The path that `below` is when looked at from a directory; an absolute path stays as it is. -/
def join (directory below : Path) : Path :=
  if below.isAbsolute then below else { directory with names := directory.names ++ below.names }

/-- The path of a name in a directory. -/
def child (directory : Path) (name : String) : Path := directory.join (ofString name)

/-- The name of the user whose home directory a relative path starts from, empty for one's own. -/
def homeUser? (path : Path) : Option String :=
  if path.isAbsolute then none
  else
    match path.names with
    | [] => none
    | name :: _ =>
      match name.toList with
      | '~' :: user => some (String.ofList user)
      | _ => none

/-- The path of a home directory. Slashes at its end say nothing, and with nothing else it is the
root. -/
def ofHome (home : String) : Path :=
  let significant := (home.toList.reverse.dropWhile (· == '/')).reverse
  ofString (if significant.isEmpty then "/" else String.ofList significant)

/-- The path with a home directory put in the place of a tilde; none if that home is not known. One
that starts with a tilde again is as good as unknown. -/
def expandHome? (home? : String → Option String) (path : Path) : Option Path :=
  match path.homeUser? with
  | none => some path
  | some user =>
    ((home? user).filter (·.toList.head? != some '~')).map fun home ↦
      { ofHome home with names := (ofHome home).names ++ path.names.drop 1 }

end Path

end NoteChart
