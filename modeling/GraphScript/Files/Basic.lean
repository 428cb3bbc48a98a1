import GraphScript.Files.Path
import GraphScript.Text.Utf8

namespace GraphScript

namespace Files

inductive Entry where
  | directory
  | file (bytes : List UInt8)
deriving DecidableEq, Repr

/-- Why an operation on a path failed. -/
inductive Cause where
  | missing
  | occupied
  | notDirectory
  | isDirectory
  | nameTooLong
  /-- No path has a null character. -/
  | nullCharacter
deriving DecidableEq, Repr

namespace Cause

def reason : Cause → String
  | missing => "No such file or directory"
  | occupied => "File exists"
  | notDirectory => "Not a directory"
  | isDirectory => "Is a directory"
  | nameTooLong => "File name too long"
  | nullCharacter => "embedded null byte"

/-- The number of a cause; a path that is none has no number. -/
def number? : Cause → Option Nat
  | missing => some 2
  | occupied => some 17
  | notDirectory => some 20
  | isDirectory => some 21
  | nameTooLong => some 36
  | nullCharacter => none

end Cause

/-- A failed operation, with its path. -/
structure Failure where
  cause : Cause
  path : String
deriving DecidableEq, Repr

def Failure.message (f : Failure) : String :=
  match f.cause.number? with
  | some n => "[Errno " ++ toString n ++ "] " ++ f.cause.reason ++ ": " ++ Text.quoted f.path
  | none => f.cause.reason

/-- Why a file gave no text. -/
inductive ReadFailure where
  | file (failure : Failure)
  | encoding (issue : Text.Utf8.Issue)
deriving DecidableEq, Repr

end Files

/-- Directories and files by their places below the root. -/
structure Files where
  /-- The place of the working directory. -/
  working : List String
  entries : List (List String × Files.Entry)
deriving DecidableEq, Repr

namespace Files

/-- A working directory with nothing in it. -/
def empty : Files :=
  ⟨["work"], [(["work"], .directory)]⟩

/-- What is at a place; the root is a directory. -/
def at? (files : Files) (place : List String) : Option Entry :=
  if place = [] then some .directory else files.entries.lookup place

def setEntry (place : List String) (entry : Entry) :
    List (List String × Entry) → List (List String × Entry)
  | [] => [(place, entry)]
  | (p, e) :: rest => if p = place then (p, entry) :: rest else (p, e) :: setEntry place entry rest

def set (files : Files) (place : List String) (entry : Entry) : Files :=
  { files with entries := setEntry place entry files.entries }

/-- The most bytes that a part of a path may have. -/
def partLimit : Nat := 255

/-- The most bytes that a path may have. -/
def pathLimit : Nat := 4095

/-- The place that parts lead to; every place on the way has to be a directory. -/
def follow (files : Files) (place : List String) : List String → Except Cause (List String)
  | [] => .ok place
  | part :: rest =>
    match files.at? place with
    | none => .error .missing
    | some (.file _) => .error .notDirectory
    | some .directory =>
      if partLimit < part.utf8ByteSize then .error .nameTooLong
      else files.follow (if part = ".." then place.dropLast else place ++ [part]) rest

/-- The place of a path. -/
def locate (files : Files) (path : Path) : Except Cause (List String) :=
  if path.parts.any fun part => part.toList.contains (Char.ofNat 0) then .error .nullCharacter
  else if pathLimit < path.text.utf8ByteSize then .error .nameTooLong
  else files.follow (if path.start = .relative then files.working else []) path.parts

def isDirectory (files : Files) (path : Path) : Bool :=
  match files.locate path with
  | .ok place => files.at? place == some .directory
  | .error _ => false

/-- The bytes of a file. -/
def read (files : Files) (path : Path) : Except Failure (List UInt8) :=
  match files.locate path with
  | .error cause => .error ⟨cause, path.text⟩
  | .ok place =>
    match files.at? place with
    | none => .error ⟨.missing, path.text⟩
    | some .directory => .error ⟨.isDirectory, path.text⟩
    | some (.file bytes) => .ok bytes

/-- The text of a file, with line ends unified. -/
def readText (files : Files) (path : Path) : Except ReadFailure String :=
  match files.read path with
  | .error failure => .error (.file failure)
  | .ok bytes =>
    match Text.Utf8.decode bytes with
    | .error issue => .error (.encoding issue)
    | .ok chars => .ok (String.ofList (Text.Utf8.unifyLineEnds chars))

/-- Writes a file anew from what it held before, if it was there. -/
def update (files : Files) (path : Path) (change : List UInt8 → List UInt8) :
    Files × Except Failure Unit :=
  match files.locate path with
  | .error cause => (files, .error ⟨cause, path.text⟩)
  | .ok place =>
    match files.at? place with
    | some .directory => (files, .error ⟨.isDirectory, path.text⟩)
    | some (.file bytes) => (files.set place (.file (change bytes)), .ok ())
    | none => (files.set place (.file (change [])), .ok ())

/-- Writes a text to a file, in place of what it held. -/
def writeText (files : Files) (path : Path) (text : String) : Files × Except Failure Unit :=
  files.update path fun _ => Text.Utf8.encode text

/-- Adds a text at the end of a file. -/
def appendText (files : Files) (path : Path) (text : String) : Files × Except Failure Unit :=
  files.update path fun bytes => bytes ++ Text.Utf8.encode text

/-- Makes one directory. -/
def makeDirectory (files : Files) (path : Path) : Files × Except Failure Unit :=
  match files.locate path with
  | .error cause => (files, .error ⟨cause, path.text⟩)
  | .ok place =>
    if (files.at? place).isSome then (files, .error ⟨.occupied, path.text⟩)
    else (files.set place .directory, .ok ())

/-- Makes one directory; one that is there already is fine. -/
def ensureDirectory (files : Files) (path : Path) : Files × Except Failure Unit :=
  match files.makeDirectory path with
  | (files, .ok ()) => (files, .ok ())
  | (files, .error failure) =>
    if failure.cause != .missing && files.isDirectory path then (files, .ok ())
    else (files, .error failure)

/-- Makes the directory of the parts, given from the last to the first, and those on the way. -/
def ensureParts (start : Start) : List String → Files → Files × Except Failure Unit
  | [], files => files.ensureDirectory ⟨start, []⟩
  | part :: before, files =>
    let path : Path := ⟨start, (part :: before).reverse⟩
    match files.ensureDirectory path with
    | (files, .ok ()) => (files, .ok ())
    | (files, .error failure) =>
      if failure.cause = .missing then
        match ensureParts start before files with
        | (files, .ok ()) => files.ensureDirectory path
        | (files, .error failure) => (files, .error failure)
      else (files, .error failure)

/-- Makes a directory and those on the way to it. -/
def ensureDirectories (files : Files) (path : Path) : Files × Except Failure Unit :=
  ensureParts path.start path.parts.reverse files

/-- The files below the working directory, with their paths and bytes. -/
def listing (files : Files) : List (String × List UInt8) :=
  files.entries.filterMap fun entry =>
    match entry with
    | (place, .file bytes) =>
      if files.working.isPrefixOf place then
        some ("/".intercalate (place.drop files.working.length), bytes)
      else none
    | _ => none

/-- The files that are new or differ from what they were. -/
def changes (before after : Files) : List (String × List UInt8) :=
  let old := before.listing
  after.listing.filter fun entry => old.lookup entry.1 != some entry.2

end Files

end GraphScript
