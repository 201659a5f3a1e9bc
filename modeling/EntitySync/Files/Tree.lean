import EntitySync.Files

/-!
# Trees of files

Files and directories that are kept in memory and read by path, as a system reads them. A path has
names between slashes and leads from the directory at the root of the tree. On the way `.` stays
where it is and `..` goes one up; nothing is known of what is around the tree.
-/

namespace EntitySync

/-- What stands under a name. -/
inductive FileEntry where
  | file (contents : FileText)
  | directory

/-- Entries under the names that lead to them. -/
structure FileTree where
  entries : List (List String × FileEntry) := []

namespace FileTree

/-! ### Names -/

/-- The names between the slashes of a path. -/
def names (path : String) : List String := path.splitOn "/"

/-- A name that leads nowhere else. -/
def isHere (name : String) : Bool := name = "" || name = "."

/-- Put an entry at a path, which has neither `..` nor a slash in front. -/
def add (path : String) (entry : FileEntry) (t : FileTree) : FileTree :=
  ⟨((names path).filter fun name => !isHere name, entry) :: t.entries⟩

/-- What the names lead to. A directory is there as soon as something is in it. -/
def entry? (t : FileTree) (names : List String) : Option FileEntry :=
  (t.entries.lookup names).or
    (if t.entries.any fun entry => names.isPrefixOf entry.1 then some .directory else none)

/-! ### Reading -/

/-- Greatest length of a name in bytes. -/
def longestName : Nat := 255

/-- Greatest length of a path in bytes. -/
def longestPath : Nat := 4095

/-- A directory of the tree, or one around it. -/
inductive Directory where
  | inside (names : List String)
  | outside

def Directory.parent : Directory → Directory
  | .inside (name :: names) => .inside (name :: names).dropLast
  | _ => .outside

/-- Read the file to which names lead from a directory. -/
def readFrom (t : FileTree) (directory : Directory) : List String → FileText
  | [] => .error .isDirectory
  | name :: rest =>
    if isHere name then t.readFrom directory rest
    else if name = ".." then t.readFrom directory.parent rest
    else if longestName < name.utf8ByteSize then .error .nameTooLong
    else
      match directory with
      | .outside => .error .notFound
      | .inside names =>
        match t.entry? (names ++ [name]) with
        | none => .error .notFound
        | some .directory => t.readFrom (.inside (names ++ [name])) rest
        | some (.file contents) => if rest.isEmpty then contents else .error .notDirectory

/-- Read the file at a path. -/
def read (t : FileTree) (path : String) : FileText :=
  if path.isEmpty then .error .notFound
  else if longestPath < path.utf8ByteSize then .error .nameTooLong
  else t.readFrom (if path.startsWith "/" then .outside else .inside []) (names path)

end FileTree

end EntitySync
