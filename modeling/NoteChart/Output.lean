import NoteChart.Host

/-!
# Files to be written

A file is written where its path says. Directories on the way to it are made if they are not there,
one after the other, so two dots lead back out of a directory that has just been made. The file
replaces a file in its place, but no directory; and no file on the way to it is replaced by a
directory. A name that is too long is noticed when its turn comes, the path of the directory as a
whole at the start, and too long a way to go before the first directory on it is made.

`Host.outputPlace` is what this comes to: the place of the file, which has no two dots in it any
more, or why there is none.
-/

namespace NoteChart

namespace Path

/-- The directory that a path is in. The empty path and a root are in themselves. -/
def directory (path : Path) : Path := { path with names := path.names.dropLast }

/-- The place that a name leads to from a place. Two dots lead to the directory that place is in. -/
def enter (place : Path) (name : String) : Path :=
  if name = ".." then place.directory else { place with names := place.names ++ [name] }

/-- The places that names lead to, one after the other. -/
def along (place : Path) : List String → List Path
  | [] => []
  | name :: rest => place.enter name :: (place.enter name).along rest

end Path

/-- Why a file cannot be written. -/
inductive OutputFault
  /-- A directory is there. -/
  | isDirectory (path : Path)
  /-- A file is there in the place of the directory it would be in, or of one that would be made. -/
  | directoryIsFile (path : Path)
  /-- A file is there further up. -/
  | beyondFile (path : Path)
  /-- A name cannot be one of a file or a directory. -/
  | nullInName (path : Path)
  /-- A path is too long, or a name in it. -/
  | tooLong (path : Path)
  /-- Too many directories would be made, from this one on. -/
  | tooDeep (path : Path)
deriving DecidableEq

namespace Host

/-- The places on the way along a path; the last one is that of the path. -/
def placesTo (host : Host) (path : Path) : List Path :=
  (if path.isAbsolute then { path with names := [] } else host.workingDirectory).along path.names

/-- The most directories that are made for one file: this many steps, two dots included, may be left
of the way where the first directory is not there. -/
def directoryLimit : Nat := 990

/-- What is found at a place on the way, where all is made that is not there: a name that is too
long is noticed in a directory that has just been made, too. -/
def findOnWay (host : Host) (place : Path) : Found :=
  match host.lookThrough place with
  | .nothing => if place.names.any Path.isLongName then .tooLong else .nothing
  | found => found

/-- Makes directories at places on the way, where there are none; `made` are those made so far. A
file that is met first is further up than the last place, unless it is that. Once a directory has
been made, every further one is looked at by itself. -/
def makeDirectories (host : Host) (made : List Path) : List Path → Except OutputFault (List Path)
  | [] => .ok made
  | place :: rest =>
    match host.findOnWay place with
    | .directory => makeDirectories host made rest
    | .nothing =>
      if made.isEmpty && directoryLimit < rest.length + 1 then .error (.tooDeep place)
      else makeDirectories host (place :: made) rest
    | .tooLong => .error (.tooLong place)
    | .file _ | .beyondFile =>
      if made.isEmpty && !rest.isEmpty then .error (.beyondFile place)
      else .error (.directoryIsFile place)

/-- The place where a file of some path is written. -/
def outputPlace (host : Host) (path : Path) : Except OutputFault Path := do
  if path.directory.hasNull then throw (.nullInName path)
  if path.directory.isTooLong then throw (.tooLong path)
  let made ← host.makeDirectories [] (host.placesTo path).dropLast
  if path.hasNull then throw (.nullInName path)
  if path.isTooLong then throw (.tooLong path)
  match (host.placesTo path).getLast? with
  | none => throw (.isDirectory path)
  | some place =>
    if made.contains place || host.findOnWay place = .directory then throw (.isDirectory place)
    if host.findOnWay place = .tooLong then throw (.tooLong place)
    return place

end Host

end NoteChart
