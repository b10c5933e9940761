/-!
What a command finds in the file system: the text of files under the paths that it may read.
-/

namespace ODataAdapter.Command

inductive FileState
  | text (content : String)
  | directory
  | absent
  | notDirectory
  | nameTooLong
  | unreadable (reason : String)
  deriving DecidableEq, Repr, Inhabited

abbrev Files := String → FileState

namespace FileState

def exists? : FileState → Bool
  | text _ | directory | unreadable _ => true
  | absent | notDirectory | nameTooLong => false

def read : FileState → Except String String
  | text content => .ok content
  | directory => .error "Is a directory (os error 21)"
  | absent => .error "No such file or directory (os error 2)"
  | notDirectory => .error "Not a directory (os error 20)"
  | nameTooLong => .error "File name too long (os error 36)"
  | unreadable reason => .error reason

end FileState

end ODataAdapter.Command
