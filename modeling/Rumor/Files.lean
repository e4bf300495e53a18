import Rumor.SystemFault
import Rumor.Text.Utf8

namespace Rumor

-- A place below the root, by the names on the way to it.
abbrev Place := List String

-- A directory tree. The root is always there, and so is the way to the
-- directory `here` that paths begin in. A sink takes whatever is written and
-- gives nothing back.
structure Files where
  here : Place
  directories : List Place
  sinks : List Place
  files : List (Place × Bytes)
deriving DecidableEq, Repr

namespace Files

-- Nothing but the directory that paths begin in.
def within (here : Place) : Files :=
  ⟨here, [], [], []⟩

def isDirectory (fs : Files) (place : Place) : Bool :=
  place.isPrefixOf fs.here || fs.directories.contains place

def isSink (fs : Files) (place : Place) : Bool :=
  fs.sinks.contains place

def contents? (fs : Files) (place : Place) : Option Bytes :=
  if fs.isSink place then some [] else fs.files.lookup place

def split (path : String) : List String :=
  (path.toList.splitOn '/').map String.ofList

-- The names that a path goes through. A path that ends in a slash names a
-- directory, as if it went on to `.`.
def names (path : String) : List String :=
  (split path).filter (· ≠ "")

def namesDirectory (path : String) : Bool :=
  path.toList.getLast? = some '/'

def origin (fs : Files) (path : String) : Place :=
  if path.toList.head? = some '/' then [] else fs.here

def step (place : Place) (name : String) : Place :=
  if name = "." then place else if name = ".." then place.dropLast else place ++ [name]

-- What is wrong with a path before anything is looked up.
def malformed? (path : String) : Option SystemFault :=
  if path.toList.contains '\x00' then some .nulInName
  else if 4096 ≤ path.utf8ByteSize then some .nameTooLong
  else none

-- Every name but the last has to be that of a directory, and is looked up there.
def walk (fs : Files) (place : Place) : List String → Except SystemFault Place
  | [] => .ok place
  | name :: rest =>
      if fs.isDirectory place then
        if 255 < name.utf8ByteSize then .error .nameTooLong else walk fs (step place name) rest
      else if (fs.contents? place).isSome then .error .notDirectory
      else .error .notFound

def follow (fs : Files) (path : String) (names : List String) : Except SystemFault Place :=
  match malformed? path with
  | some fault => .error fault
  | none => fs.walk (fs.origin path) names

def read (fs : Files) (path : String) : Except SystemFault Bytes :=
  match fs.follow path (names path) with
  | .error fault => .error fault
  | .ok place =>
      if fs.isDirectory place then .error .isDirectory
      else
        match fs.contents? place with
        | none => .error .notFound
        | some bytes => if namesDirectory path then .error .notDirectory else .ok bytes

def put (fs : Files) (place : Place) (bytes : Bytes) : Files :=
  if fs.isSink place then fs
  else { fs with files := (place, bytes) :: fs.files.filter (·.1 ≠ place) }

-- No file is made where a path names a directory, whether that is there or not.
def write (fs : Files) (path : String) (bytes : Bytes) : Except SystemFault Files :=
  let isClosed := namesDirectory path
  match fs.follow path (if isClosed then (names path).dropLast ++ ["."] else names path) with
  | .error fault => .error fault
  | .ok place =>
      if isClosed || fs.isDirectory place then .error .isDirectory
      else .ok (fs.put place bytes)

-- Makes the directories on the way that are missing, as far as it gets. Where
-- none is missing and the way leads through a file, nothing is tried.
def makeDirectories (fs : Files) (made : Bool) (place : Place) :
    List String → Option SystemFault × Files
  | [] => (none, fs)
  | name :: rest =>
      let next := step place name
      if 255 < name.utf8ByteSize then (some .nameTooLong, fs)
      else if (fs.contents? next).isSome then
        (some (if made || rest.isEmpty then .exists else .notDirectory), fs)
      else if fs.isDirectory next then makeDirectories fs made next rest
      else makeDirectories { fs with directories := next :: fs.directories } true next rest

-- Drops slashes from the end of a path, with the dots between that stand for the
-- place itself. The path is read backwards.
def trimEnd : List Char → List Char
  | '/' :: rest => trimEnd rest
  | '.' :: '/' :: rest => trimEnd rest
  | chars => chars

-- The path without its last name.
def parent (path : String) : String :=
  String.ofList (trimEnd ((trimEnd path.toList.reverse).dropWhile (· ≠ '/'))).reverse

def makeParent (fs : Files) (path : String) : Option SystemFault × Files :=
  match malformed? (parent path) with
  | some fault => (some fault, fs)
  | none => fs.makeDirectories false (fs.origin path) ((names path).filter (· ≠ ".")).dropLast

-- Writes a file into a directory that need not be there yet. Directories that
-- were made stay, also when the file cannot be written.
def save (fs : Files) (path : String) (bytes : Bytes) : Option SystemFault × Files :=
  match fs.makeParent path with
  | (some fault, fs) => (some fault, fs)
  | (none, fs) =>
      match fs.write path bytes with
      | .error fault => (some fault, fs)
      | .ok fs => (none, fs)

end Files

end Rumor
