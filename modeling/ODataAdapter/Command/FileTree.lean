import ODataAdapter.Command.Files

/-!
Directory trees in memory, and what paths lead to in them. A path is followed part by part: an empty
part and a point stay where they are, two points lead to the directory above, and each of them needs
a directory to start from.
-/

namespace ODataAdapter.Command

inductive FileTree
  | file (content : String)
  | directory (entries : List (String × FileTree))
  deriving Repr, Inhabited

namespace FileTree

def at? : FileTree → List String → Option FileTree
  | tree, [] => some tree
  | file _, _ :: _ => none
  | directory entries, name :: names =>
      match entries.lookup name with
      | some tree => tree.at? names
      | none => none

def entries : FileTree → List (String × FileTree)
  | file _ => []
  | directory entries => entries

/-- Put a file at the end of a list of names. Directories that are missing on the way are made. -/
def withFile (content : String) : List String → FileTree → FileTree
  | [], _ => file content
  | name :: names, tree =>
      let inner := (tree.entries.lookup name).getD (directory [])
      directory ((name, withFile content names inner) :: tree.entries.filter (·.1 ≠ name))

def state : FileTree → FileState
  | file content => .text content
  | directory _ => .directory

def maxNameSize : Nat := 255

def maxPathSize : Nat := 4095

def follow (tree : FileTree) (place : List String) : List String → FileState
  | [] => ((tree.at? place).map state).getD .absent
  | part :: parts =>
      match tree.at? place with
      | none => .absent
      | some (file _) => .notDirectory
      | some (directory entries) =>
          if part = "" || part = "." then tree.follow place parts
          else if part = ".." then tree.follow place.dropLast parts
          else if maxNameSize < part.utf8ByteSize then .nameTooLong
          else if (entries.lookup part).isNone then .absent
          else tree.follow (place ++ [part]) parts

def files (tree : FileTree) (workingDirectory : List String) : Files := fun path =>
  if path.isEmpty then .absent
  else if maxPathSize < path.utf8ByteSize then .nameTooLong
  else if path.startsWith "/" then tree.follow [] (path.splitOn "/")
  else tree.follow workingDirectory (path.splitOn "/")

end FileTree

end ODataAdapter.Command
