import Dataflow.Text.Split

/-!
# Places for log files

A tree of folders and files, as far as making folders and opening files for writing goes.  Places
are lists of names that lead down from the root of the tree.
-/

namespace Dataflow

/-- A place in a tree. -/
abbrev Place := List String

/-- The folders of a tree besides its root, and its files. -/
structure FileTree where
  folders : List Place := []
  files : List Place := []
  deriving DecidableEq, Repr

namespace FileTree

/-- The names along a path, which may start with the path of the root. -/
def names (root path : String) : List String :=
  let below :=
    if root.toList.isPrefixOf path.toList then path.toList.drop root.length else path.toList
  (Text.split '/' below).map String.ofList

/-- Makes the folders along a path that are missing and tells where it ends; nothing if a file is
in the way. -/
def makeFolders? (tree : FileTree) (place : Place) : List String → Option (FileTree × Place)
  | [] => some (tree, place)
  | name :: rest =>
    if name = "" ∨ name = "." then makeFolders? tree place rest
    else if name = ".." then makeFolders? tree place.dropLast rest
    else
      let inner := place ++ [name]
      if inner ∈ tree.files then none
      else if inner ∈ tree.folders then makeFolders? tree inner rest
      else makeFolders? { tree with folders := tree.folders ++ [inner] } inner rest

/-- Opens a file for writing at the end of a path, making the folders to it and the file itself if
they are missing; nothing if the path does not name a file. -/
def openFile? (tree : FileTree) (place : Place) (path : List String) : Option FileTree :=
  match path.getLast? with
  | none => none
  | some name =>
    if name = "" ∨ name = "." ∨ name = ".." then none
    else
      (tree.makeFolders? place path.dropLast).bind fun (tree, folder) =>
        let file := folder ++ [name]
        if file ∈ tree.folders then none
        else if file ∈ tree.files then some tree
        else some { tree with files := tree.files ++ [file] }

end FileTree

end Dataflow
