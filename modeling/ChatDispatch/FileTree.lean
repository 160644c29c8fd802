import ChatDispatch.FilePath
import ChatDispatch.Plugin

/-!
# Files

A file tree maps locations to what is stored there.  Directories exist because something
lies in them, because they were made explicitly, or because they are the home or the working
directory.  Besides the own home directory those of other accounts have names.
-/

namespace ChatDispatch

/-- What a plugin script does when it is run: it defines a factory for the plugin of a
blueprint, or something under the factory's name that cannot be called, or nothing.
The width of a blueprint is the number of callables in it.  Of scripts that make no plugin
the text is known. -/
inductive Script where
  | factory (blueprint : Blueprint) (width : Nat) (importFailure factoryFailure : Option String)
  | notCallable (text : String)
  | empty (text : String)

/-- What is stored at a location. -/
inductive FileNode where
  | document (content : Value)
  | malformed
  | directory
  | script (content : Script)

namespace FileNode

/-- What a file holds when it is read as a document: a script without a factory is a plain
text. -/
def content? : FileNode → Option Value
  | .document content => some content
  | .script (.empty text) => some (.text text)
  | .script (.notCallable text) => some (.text text)
  | _ => none

/-- The text in a file, as far as it is known: a document by its literal. -/
def text? (node : FileNode) : Option String :=
  node.content?.map fun content =>
    match content with
    | .null => ""
    | content => content.asText

end FileNode

/-- Stored nodes by location, and the accounts of the system with the names on the way from
its root to their home directories. -/
structure FileTree where
  nodes : List (Location × FileNode)
  accounts : List (String × List String)

/-- A name in front of its last dot and the text from that dot on, when there is
something on both sides of the dot. -/
def stemAndSuffix (name : String) : String × String :=
  let characters := name.toList
  let tail := (characters.reverse.takeWhile (· != '.')).reverse
  let stem := characters.take (characters.length - tail.length - 1)
  if tail.length = characters.length || tail.isEmpty || stem.isEmpty then
    (name, "")
  else
    (String.ofList stem, String.ofList ('.' :: tail))

namespace FileTree

def node? (tree : FileTree) (location : Location) : Option FileNode :=
  match Table.lookup location tree.nodes with
  | some node => some node
  | none =>
      let implied := location.isAbove || location = Location.home || location = Location.work ||
        tree.nodes.any fun entry => location.isPrefixOf entry.1
      if implied then some .directory else none

/-- Whether there is a directory at a location. -/
def isDirectory (tree : FileTree) (location : Location) : Bool :=
  match tree.node? location with
  | some .directory => true
  | _ => false

/-- How many bytes the name of a file can have. -/
def nameLimit : Nat := 255

/-- How many bytes the text of a path can have. -/
def textLimit : Nat := 4095

/-- Walks along names; every location that is left must be a directory. -/
def walk (tree : FileTree) : Location → List String → Except Fault Location
  | location, [] => .ok location
  | location, name :: names =>
      match tree.node? location with
      | none => .error .fileNotFound
      | some .directory =>
          if nameLimit < name.utf8ByteSize then
            .error .nameTooLong
          else
            walk tree (location.step name) names
      | some _ => .error .notDirectory

/-- The place that a path leads to, whether or not something is there. -/
def reach (tree : FileTree) (path : FilePath) : Except Fault Location :=
  if path.hasNull then .error .nullInPath
  else if textLimit < path.text.utf8ByteSize then .error .nameTooLong
  else tree.walk path.start path.names

/-- The node that a path leads to, and its place. -/
def visit (tree : FileTree) (path : FilePath) : Except Fault (Location × FileNode) :=
  match tree.reach path with
  | .error fault => .error fault
  | .ok location =>
      match tree.node? location with
      | none => .error .fileNotFound
      | some node => .ok (location, node)

/-- The node that a path leads to, and its place, if the path is followed as it is written.
The idle names count there, for the text as a whole may be too long. -/
def visitWritten (tree : FileTree) (written : String) (path : FilePath) :
    Except Fault (Location × FileNode) :=
  if textLimit < written.utf8ByteSize then .error .nameTooLong else tree.visit path

/-- The node that a path leads to, if anything is there; a name that is too long is a
fault here. -/
def look (tree : FileTree) (path : FilePath) : Except Fault (Option (Location × FileNode)) :=
  match tree.visit path with
  | .ok found => .ok (some found)
  | .error .nameTooLong => .error .nameTooLong
  | .error _ => .ok none

/-- The node that exists under the text of a path.  Nothing exists under the empty text, and
only a directory under a text that wants one. -/
def existing? (tree : FileTree) (text : String) : Option FileNode :=
  match tree.visitWritten text (FilePath.ofText text) with
  | .error _ => none
  | .ok (place, node) =>
      if text = "" || (FilePath.wantsDirectory text && !tree.isDirectory place) then
        none
      else
        some node

/-- The names of what lies directly in a directory, in alphabetical order. -/
def children (tree : FileTree) (location : Location) : List String :=
  let names := tree.nodes.filterMap fun entry =>
    if location.isPrefixOf entry.1 then entry.1[location.length]? else none
  names.eraseDups.mergeSort fun left right => decide (left ≤ right)

def put (tree : FileTree) (location : Location) (node : FileNode) : FileTree :=
  { tree with nodes := Table.store location node tree.nodes }

/-- Writes a document to the file that a path leads to. -/
def save (tree : FileTree) (path : FilePath) (content : Value) : Except Fault FileTree :=
  match tree.reach path with
  | .error fault => .error fault
  | .ok location =>
      if tree.isDirectory location then .error .isDirectory
      else .ok (tree.put location (.document content))

end FileTree

end ChatDispatch
