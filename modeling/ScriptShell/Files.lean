import ScriptShell.Failure
import ScriptShell.Text.Utf8

/-!
# Files

A tree of named nodes under one root, with a working directory in it. A path is walked component
by component: a single dot stays, two dots go up, and every component but the last must lead to a
directory. A path that ends in a slash means a directory.
-/

namespace ScriptShell

/-- A file with its content, one that the process may neither read nor write, or a directory with
its entries. -/
inductive Node where
  | file (content : Bytes)
  | locked
  | directory (entries : List (String × Node))
  deriving Inhabited

/-- The files that a run can see: a tree, and the place of the working directory in it. -/
structure Files where
  root : Node
  working : List String
  deriving Inhabited

namespace Node

/-- The node of a name in a list of entries. -/
def find? (name : String) : List (String × Node) → Option Node
  | [] => none
  | (other, node) :: rest => if other = name then some node else find? name rest

/-- Entries with the node of a name replaced, or added at the end. -/
def replace (name : String) (node : Node) : List (String × Node) → List (String × Node)
  | [] => [(name, node)]
  | (other, old) :: rest =>
    if other = name then (name, node) :: rest else (other, old) :: replace name node rest

/-- The node at the end of a chain of names. -/
def follow? (node : Node) : List String → Option Node
  | [] => some node
  | name :: rest =>
    match node with
    | .file _ | .locked => none
    | .directory entries =>
      match find? name entries with
      | some next => next.follow? rest
      | none => none

/-- The entries of a directory; a file has none. -/
def entries : Node → List (String × Node)
  | .file _ | .locked => []
  | .directory entries => entries

/-- The tree with a node put at the end of a chain of names, with directories made on the way. -/
def put (node : Node) (target : Node) : List String → Node
  | [] => target
  | name :: rest =>
    let next := (find? name node.entries).getD (.directory [])
    .directory (replace name (next.put target rest) node.entries)

end Node

namespace Files

/-! ## Paths -/

/-- The components of a path between its slashes, empty ones included. -/
def components (path : String) : List String :=
  (path.toList.splitOn '/').map String.ofList

/-- The longest name of a node, in octets. -/
def nameLimit : Nat := 255

/-- The length from which on a path is too long, in octets. -/
def pathLimit : Nat := 4096

/-- The place from which a path is walked. -/
def startOf (files : Files) (path : String) : List String :=
  if path.toList.head? = some '/' then [] else files.working

/-- Walks components from a place to a place; the place that a last component names need not
exist. Each component must start at a directory. -/
def walk (files : Files) (place : List String) : List String → Except IoError (List String)
  | [] => .ok place
  | name :: rest =>
    match files.root.follow? place with
    | none => .error .notFound
    | some (.file _) | some .locked => .error .notDirectory
    | some (.directory _) =>
      if name = "" || name = "." then files.walk place rest
      else if name = ".." then files.walk place.dropLast rest
      else if nameLimit < name.utf8ByteSize then .error .nameTooLong
      else files.walk (place ++ [name]) rest

/-- The place that a path names. -/
def resolve (files : Files) (path : String) : Except IoError (List String) :=
  if path.toList.contains '\x00' then .error .nulInPath
  else if path = "" then .error .notFound
  else if pathLimit ≤ path.utf8ByteSize then .error .nameTooLong
  else files.walk (files.startOf path) (components path)

/-! ## Reading and writing -/

/-- The content of the file that a path names. -/
def read (files : Files) (path : String) : Except IoError Bytes := do
  let place ← files.resolve path
  match files.root.follow? place with
  | none => .error .notFound
  | some (.directory _) => .error .isDirectory
  | some .locked => .error .notPermitted
  | some (.file content) => .ok content

/-- A path without the slashes at its end. -/
def withoutSlashes (path : String) : String :=
  String.ofList (path.toList.reverse.dropWhile (· = '/')).reverse

/-- The files after the file that a path names was created or replaced. No file is made under a
path that ends in a slash, whatever stands there. -/
def write (files : Files) (path : String) (content : Bytes) : Except IoError Files := do
  let bare := withoutSlashes path
  let place ← files.resolve (if bare = "" then path else bare)
  match files.root.follow? place with
  | some (.directory _) => .error .isDirectory
  | some .locked => .error .notPermitted
  | _ =>
    if bare != path then .error .isDirectory
    else .ok { files with root := files.root.put (.file content) place }

/-! ## Building a tree -/

/-- Files with nothing but a working directory. -/
def within (working : List String) : Files :=
  ⟨(Node.directory []).put (.directory []) working, working⟩

/-- Files with an empty working directory. -/
def empty : Files :=
  within ["home"]

/-- Walks components from a place and makes the directories on the way. -/
def pave (files : Files) (place : List String) : List String → Files × List String
  | [] => (files, place)
  | name :: rest =>
    if name = "" || name = "." then files.pave place rest
    else if name = ".." then files.pave place.dropLast rest
    else
      let next := place ++ [name]
      if (files.root.follow? next).isSome then files.pave next rest
      else ({ files with root := files.root.put (.directory []) next } : Files).pave next rest

/-- The files with a directory, its parents included. -/
def addDirectory (files : Files) (path : String) : Files :=
  (files.pave (files.startOf path) (components path)).1

/-- The files with one file more, its parents included. -/
def addFile (files : Files) (path : String) (content : Bytes) : Files :=
  let names := components path
  let (files, place) := files.pave (files.startOf path) names.dropLast
  { files with root := files.root.put (.file content) (place ++ [names.getLastD ""]) }

/-- The files with one more that may not be opened, its parents included. -/
def addLocked (files : Files) (path : String) : Files :=
  let names := components path
  let (files, place) := files.pave (files.startOf path) names.dropLast
  { files with root := files.root.put .locked (place ++ [names.getLastD ""]) }

end Files

end ScriptShell
