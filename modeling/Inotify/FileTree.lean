/- # File trees

A tree of folders and files around a working directory, as far as a run that ends early can see it. A
path is walked piece by piece from the working directory:

| piece | leads to |
| --- | --- |
| empty, `.` | the same folder |
| `..` | the folder above |
| a name | the entry of that name |

Only a folder can be walked into. What lies outside, above the working directory or at an absolute
path, is not part of the tree: its folders can be walked up, nothing is found in them, and whatever is
made in them is made without a trace.
-/

import Inotify.Path

namespace Inotify

/-- What a name in a tree stands for. -/
inductive FileTree.Entry where
  | folder
  | file (content : Bytes)
deriving DecidableEq, Repr

/-- A tree: what is in the working directory and below, each entry by the names that lead to it. -/
structure FileTree where
  /-- The entries; a folder stands before what is in it. -/
  entries : List (List Bytes × FileTree.Entry) := []
deriving DecidableEq, Repr

namespace FileTree

/-- Where a walk stands. -/
inductive Place where
  /-- At the entry that some names lead to. -/
  | inside (names : List Bytes)
  /-- At a folder outside. -/
  | outside
deriving DecidableEq, Repr

/-- The longest name of an entry, in bytes. -/
def longestName : Nat := 255

/-- The longest path, in bytes. -/
def pathMax : Nat := 4095

/-- A name held a zero byte. -/
def zeroByte : IoFault := .text "file name contained an unexpected NUL byte"

/-- The fault of an error. -/
def faultOf (e : Errno) : IoFault := .system e.code

/-- What some names lead to. -/
def find? (t : FileTree) (names : List Bytes) : Option Entry :=
  if names = [] then some .folder else t.entries.lookup names

/-- Whether a walk stands at a folder. -/
def isFolderAt (t : FileTree) : Place → Bool
  | .inside names => t.find? names = some .folder
  | .outside => true

/-- **Takes one step of a walk.** -/
def enter (t : FileTree) (place : Place) (piece : Bytes) : Except Errno Place :=
  if !t.isFolderAt place then .error .notDirectory
  else match Path.Component.ofPiece? piece with
    | none | some .root | some .here => .ok place
    | some .parent =>
      match place with
      | .inside (name :: names) => .ok (.inside (name :: names).dropLast)
      | _ => .ok .outside
    | some (.entry name) =>
      if longestName < name.length then .error .nameTooLong
      else match place with
        | .outside => .error .noEntry
        | .inside names =>
          if (t.find? (names ++ [name])).isSome then .ok (.inside (names ++ [name]))
          else .error .noEntry

/-- Where a walk over a path begins. -/
def origin (path : Bytes) : Place :=
  if path.head? = some Path.slash then .outside else .inside []

/-- **Where a path leads.** -/
def walk (t : FileTree) (path : Bytes) : Except IoFault Place :=
  if path = [] then .error (faultOf .noEntry)
  else if path.contains 0 then .error zeroByte
  else if pathMax < path.length then .error (faultOf .nameTooLong)
  else ((Path.pieces path).foldlM t.enter (origin path)).mapError faultOf

/-- Whether a path leads to a folder. -/
def isFolder (t : FileTree) (path : Bytes) : Bool :=
  match t.walk path with
  | .ok place => t.isFolderAt place
  | .error _ => false

/-- The bytes of a file. -/
def read (t : FileTree) (path : Bytes) : Except IoFault Bytes := do
  match ← t.walk path with
  | .outside => .error (faultOf .isDirectory)
  | .inside names =>
    match t.find? names with
    | some (.file content) => .ok content
    | _ => .error (faultOf .isDirectory)

/-- Takes one step towards something that is to be made. Outside every folder counts as made. -/
def approach (t : FileTree) (place : Place) (piece : Bytes) : Except Errno Place :=
  match place, t.enter place piece with
  | .outside, .error e => if e = .noEntry then .ok .outside else .error e
  | _, next => next

/-- Where the last piece of a path is to be made: the folder for it and its name, or the place that
it leads to already. -/
def site (t : FileTree) (path : Bytes) : Except IoFault (Place × Option Bytes) :=
  if path.contains 0 then .error zeroByte
  else if pathMax < path.length then .error (faultOf .nameTooLong)
  else do
    let pieces := Path.pieces path
    let folder ← (pieces.dropLast.foldlM t.approach (origin path)).mapError faultOf
    let name := pieces.getLast?.getD []
    match t.enter folder name with
    | .ok place => .ok (place, none)
    | .error e => if e = .noEntry then .ok (folder, some name) else .error (faultOf e)

/-- The tree with an entry more. -/
def insert (t : FileTree) (folder : Place) (name : Bytes) (e : Entry) : FileTree :=
  match folder with
  | .inside names => ⟨t.entries ++ [(names ++ [name], e)]⟩
  | .outside => t

/-- Makes one folder; what is there already is a fault. -/
def makeFolder (t : FileTree) (path : Bytes) : Except IoFault FileTree := do
  match ← t.site path with
  | (_, none) => .error (faultOf .fileExists)
  | (folder, some name) => .ok (t.insert folder name .folder)

/-- **Makes a folder and all that are missing above it**, given by its components, the last one
first. What is made stays even if the rest fails. -/
def makeFolders (t : FileTree) : List Path.Component → Except IoFault Unit × FileTree
  | [] => (.ok (), t)
  | last :: above =>
    let path := Path.ofComponents (last :: above).reverse
    match t.makeFolder path with
    | .ok t => (.ok (), t)
    | .error fault =>
      if fault = faultOf .noEntry then
        match makeFolders t above with
        | (.error fault, t) => (.error fault, t)
        | (.ok (), t) =>
          match t.makeFolder path with
          | .ok t => (.ok (), t)
          | .error fault => (if t.isFolder path then .ok () else .error fault, t)
      else (if t.isFolder path then .ok () else .error fault, t)

/-- Makes a file if it is not there; a folder in its place is a fault. -/
def makeFile (t : FileTree) (path : Bytes) : Except IoFault FileTree := do
  match ← t.site path with
  | (folder, some name) => .ok (t.insert folder name (.file []))
  | (place, none) => if t.isFolderAt place then .error (faultOf .isDirectory) else .ok t

/-- The path of an entry, with a slash behind a folder. -/
def label (names : List Bytes) (e : Entry) : Bytes :=
  [Path.slash].intercalate names ++ (if e = .folder then [Path.slash] else [])

/-- **The paths of all entries**, in the order of their bytes. -/
def listing (t : FileTree) : List Bytes :=
  (t.entries.map fun (names, e) => label names e).mergeSort fun a b => !decide (b < a)

end FileTree
end Inotify
