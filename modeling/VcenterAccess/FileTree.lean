import VcenterAccess.Table
import VcenterAccess.Text.Utf8

/-!
# File trees

The files below a working directory, and the reading of one of them as text.
Paths are relative to the working directory.  Nothing is known of what lies
outside of it, so nothing but directories is found there.
-/

namespace VcenterAccess

open Text

/-- Why a file cannot be read as text. -/
inductive FileError where
  /-- There is nothing at the path. -/
  | notFound
  /-- There is a directory at the path. -/
  | isDirectory
  /-- The path goes on behind a file. -/
  | notDirectory
  /-- The file is not UTF-8. -/
  | invalidData
  /-- The path holds a NUL. -/
  | invalidPath
deriving DecidableEq, Repr

/-- Reads the file at a path as text. -/
abbrev FileReader := String → Except FileError String

/-- The files below a working directory. -/
structure FileTree where
  /-- The files, by the parts of their names. -/
  files : List (List (List Char) × List UInt8) := []
  /-- The directories that are there without a file in them. -/
  directories : List (List (List Char)) := []

namespace FileTree

/-- What is at a place of the tree. -/
inductive Entry where
  | file (bytes : List UInt8)
  | directory

/-- Cut a text at every slash. -/
def splitPath : List Char → List (List Char)
  | [] => [[]]
  | c :: cs =>
      if c = '/' then [] :: splitPath cs
      else
        match splitPath cs with
        | [] => [[c]]
        | part :: parts => (c :: part) :: parts

/-- The parts of a name, without the empty ones. -/
def parts (name : String) : List (List Char) := (splitPath name.toList).filter fun p => !p.isEmpty

/-- The tree of named files.  A name with a slash at its end is a directory. -/
def ofList (entries : List (String × List UInt8)) : FileTree :=
  let isDirectory := fun (e : String × List UInt8) => e.1.toList.getLast? = some '/'
  { files := (entries.filter fun e => !isDirectory e).map fun e => (parts e.1, e.2)
    directories := (entries.filter fun e => isDirectory e).map fun e => parts e.1 }

/-- What is at a place, given by its parts. -/
def entryAt? (tree : FileTree) (place : List (List Char)) : Option Entry :=
  match tree.files.find? fun f => f.1 = place with
  | some f => some (.file f.2)
  | none =>
      if place.isEmpty || (tree.files.any fun f => place.isPrefixOf f.1)
          || (tree.directories.any fun d => place.isPrefixOf d)
      then some .directory
      else none

/-- Where a walk along a path has come to. -/
inductive Standpoint where
  /-- A place in the tree, its innermost part first. -/
  | inside (place : List (List Char))
  /-- A directory around the working directory. -/
  | outside

/-- Walk along the parts of a path.  Every part but the last one has to lead to a
directory. -/
def walk (tree : FileTree) : Standpoint → List (List Char) → Except FileError Entry
  | .outside, [] => .ok .directory
  | .outside, part :: rest =>
      if part = [] || part = ['.'] || part = ['.', '.'] then tree.walk .outside rest
      else .error .notFound
  | .inside place, [] =>
      match tree.entryAt? place.reverse with
      | some entry => .ok entry
      | none => .error .notFound
  | .inside place, part :: rest =>
      match tree.entryAt? place.reverse with
      | none => .error .notFound
      | some (.file _) => .error .notDirectory
      | some .directory =>
          if part = [] || part = ['.'] then tree.walk (.inside place) rest
          else if part = ['.', '.'] then
            match place with
            | [] => tree.walk .outside rest
            | _ :: outer => tree.walk (.inside outer) rest
          else tree.walk (.inside (part :: place)) rest

/-- What is at a path. -/
def find (tree : FileTree) (path : String) : Except FileError Entry :=
  let cs := path.toList
  if cs.contains '\x00' then .error .invalidPath
  else if cs.isEmpty then .error .notFound
  else if cs.head? = some '/' then tree.walk .outside (splitPath cs)
  else tree.walk (.inside []) (splitPath cs)

/-- Read the file at a path as text. -/
def read (tree : FileTree) : FileReader := fun path =>
  match tree.find path with
  | .error e => .error e
  | .ok .directory => .error .isDirectory
  | .ok (.file bytes) =>
      match Utf8.toText? bytes with
      | some s => .ok s
      | none => .error .invalidData

end FileTree

end VcenterAccess
