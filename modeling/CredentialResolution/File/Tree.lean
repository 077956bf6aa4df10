/-
This file holds a tree of files, directories and links, and finds what a path leads to.
-/

import CredentialResolution.File.Failure
import CredentialResolution.File.Path

namespace CredentialResolution

/-- An unreadable file gives its fault when it is opened or read, and a barred directory gives its
fault to everything that leads there or below. -/
inductive FileNode where
  | file (content : Bytes)
  | unreadable (fault : SystemFault)
  | directory
  | barred (fault : SystemFault)
  | link (target : Path)
  deriving DecidableEq

/-- A location lists the names from the root down to the node. -/
abbrev Location := List Bytes

structure FileTree where
  nodes : List (Location × FileNode)

/-- A path leads to no node, to a directory or to a file, but never to a link. -/
inductive Reached where
  | nothing
  | directory
  | file (content : Bytes)
  | unreadable (fault : SystemFault)
  deriving DecidableEq

structure Place where
  location : Location
  reached : Reached
  deriving DecidableEq

namespace FileTree

/-- The root is always a directory. -/
def node? (tree : FileTree) (location : Location) : Option FileNode :=
  if location = [] then some .directory else tree.nodes.lookup location

/-- This function removes the node at the location and everything below it. -/
def remove (tree : FileTree) (location : Location) : FileTree :=
  ⟨tree.nodes.filter fun entry => !location.isPrefixOf entry.1⟩

/-- This function replaces the node at the location. -/
def put (tree : FileTree) (location : Location) (node : FileNode) : FileTree :=
  ⟨(location, node) :: tree.nodes.filter fun entry => entry.1 != location⟩

def currentName : Bytes := [0x2E]

def parentName : Bytes := [0x2E, 0x2E]

def nameLimit : Nat := 255

def pathLimit : Nat := 4096

def linkLimit : Nat := 40

/-- This function goes down from a directory along the names and leaves every link to the given
function; a name may be missing only at the end, and nothing may follow a file. -/
def descend (tree : FileTree) (follow : Location → List Bytes → Except SystemFault Place)
    (here : Location) : List Bytes → Except SystemFault Place
  | [] => .ok ⟨here, .directory⟩
  | name :: rest =>
    if name = [] ∨ name = currentName then tree.descend follow here rest
    else if name = parentName then tree.descend follow here.dropLast rest
    else if nameLimit < name.length then .error .nameTooLong
    else
      let next := here ++ [name]
      match tree.node? next with
      | none => if rest = [] then .ok ⟨next, .nothing⟩ else .error .notFound
      | some .directory => tree.descend follow next rest
      | some (.file content) =>
        if rest = [] then .ok ⟨next, .file content⟩ else .error .notADirectory
      | some (.unreadable fault) =>
        if rest = [] then .ok ⟨next, .unreadable fault⟩ else .error .notADirectory
      | some (.barred fault) => .error fault
      | some (.link target) =>
        follow (if target.isAbsolute then [] else here) (target.components ++ rest)

/-- This function follows at most the given number of links. -/
def walk (tree : FileTree) : Nat → Location → List Bytes → Except SystemFault Place
  | 0 => tree.descend fun _ _ => .error .tooManyLinks
  | links + 1 => tree.descend (tree.walk links)

/-- This function finds what an absolute path leads to. -/
def locate (tree : FileTree) (path : Path) : Except SystemFault Place :=
  if pathLimit ≤ path.bytes.length then .error .nameTooLong
  else tree.walk linkLimit [] path.components

/-- A directory can be opened but not read. -/
def read (tree : FileTree) (path : Path) : Except FileFailure Bytes :=
  if 0 ∈ path.bytes then .error .nulInPath
  else
    match tree.locate path with
    | .error fault => .error (.system fault)
    | .ok place =>
      match place.reached with
      | .nothing => .error (.system .notFound)
      | .directory => .error (.system .isADirectory)
      | .file content => .ok content
      | .unreadable fault => .error (.system fault)

/-- This function replaces the file that the path leads to or creates it there. -/
def write (tree : FileTree) (path : Path) (content : Bytes) : Except SystemFault FileTree := do
  let place ← tree.locate path
  match place.reached with
  | .directory => throw .isADirectory
  | .nothing => pure (tree.put place.location (.file content))
  | .file _ => pure (tree.put place.location (.file content))
  | .unreadable fault => throw fault

/-- This function finds the directory entry of a path without following a link at its end. -/
def entryLocation (tree : FileTree) (path : Path) : Except SystemFault Location := do
  let names := path.components.filter (· ≠ [])
  let place ← tree.walk linkLimit [] names.dropLast
  match place.reached with
  | .directory => pure (place.location ++ names.getLast?.toList)
  | .nothing => throw .notFound
  | .file _ | .unreadable _ => throw .notADirectory

def removeEntry (tree : FileTree) (path : Path) : Except SystemFault FileTree := do
  let location ← tree.entryLocation path
  if (tree.node? location).isSome then pure (tree.remove location) else throw .notFound

def makeLink (tree : FileTree) (path target : Path) : Except SystemFault FileTree := do
  let location ← tree.entryLocation path
  pure (tree.put location (.link target))

/-- This function creates the directory and every missing directory above it. -/
def makeDirectories (tree : FileTree) (path : Path) : Except SystemFault FileTree :=
  let names := path.components.filter (· ≠ [])
  (List.range names.length).foldlM (fun current count => do
    let place ← current.walk linkLimit [] (names.take (count + 1))
    match place.reached with
    | .directory => pure current
    | .nothing => pure (current.put place.location .directory)
    | .file _ | .unreadable _ => throw .notADirectory) tree

/-- These directories stand right below the root of every system. -/
def standardDirectories : List String :=
  ["bin", "boot", "dev", "etc", "home", "lib", "media", "mnt", "opt", "proc", "root", "run", "sbin",
    "srv", "sys", "tmp", "usr", "var"]

/-- Of the files that every system has, only the empty device can be read. -/
def standard : FileTree :=
  ⟨([Bytes.ofText "dev", Bytes.ofText "null"], .file []) ::
    standardDirectories.map fun name => ([Bytes.ofText name], .directory)⟩

end FileTree

end CredentialResolution
