import ChatDispatch.FileTree

/-!
# Settings

Settings are mappings read from files.  The files are listed from the lowest precedence
to the highest; later ones override top-level entries of earlier ones.
-/

namespace ChatDispatch

/-- Settings with the path of the file that they are saved to. -/
structure Settings where
  data : Entries
  file : Option FilePath

namespace Settings

def fileName : String := ".axiom.yml"

/-- An optional path that counts only if it is not empty. -/
def given? (path : Option String) : Option String :=
  path.filter (· != "")

def distinct : List Location → List Location
  | [] => []
  | location :: rest => location :: (distinct rest).filter (· != location)

/-- The path of the explicit file, if one is given; it may start at the home directory. -/
def explicitPath (tree : FileTree) (explicit : Option String) :
    Except Fault (Option FilePath) :=
  match given? explicit with
  | none => .ok none
  | some text => (FilePath.ofHomeText tree.accounts text).map some

/-- The paths of the candidate files from the lowest precedence to the highest: at home, in
the project, in the current directory, and the explicit one. -/
def candidatePaths (file : String) (project : Option String) (explicit : Option FilePath) :
    List FilePath :=
  [⟨Location.home, [file]⟩] ++
    ((given? project).map fun text => (FilePath.ofText text).child file).toList ++
    [⟨Location.work, [file]⟩] ++ explicit.toList

def resolveAll : List FilePath → Except Fault (List Location)
  | [] => .ok []
  | path :: paths =>
      match path.resolve with
      | .error fault => .error fault
      | .ok location => (resolveAll paths).map (location :: ·)

/-- The candidate files from the lowest precedence to the highest; a file that comes up
twice counts where it comes up first. -/
def candidates (file : String) (project : Option String) (explicit : Option FilePath) :
    Except Fault (List Location) :=
  (resolveAll (candidatePaths file project explicit)).map distinct

/-- The mapping in a file; an empty file is an empty mapping.  The path is only named. -/
def ofNode (path : FilePath) (node : FileNode) : Except Fault Entries :=
  match node, node.content? with
  | .directory, _ => .error .isDirectory
  | _, some .null => .ok []
  | _, some (.map entries) => .ok entries
  | _, some _ => .error (.settingsNotMapping path.text)
  | _, none => .error (.malformed path.text)

/-- The mapping in the file that a path leads to. -/
def readAt (tree : FileTree) (path : FilePath) : Except Fault Entries :=
  match tree.visit path with
  | .error fault => .error fault
  | .ok (_, node) => ofNode path node

/-- Merges a candidate into the settings if it is there and can be read, and remembers it as
the last one. -/
def merge (tree : FileTree) (settings : Settings) (location : Location) :
    Except Fault Settings :=
  let path := FilePath.ofLocation location
  match tree.look path with
  | .error fault => .error fault
  | .ok none => .ok settings
  | .ok (some (_, node)) =>
      match ofNode path node with
      | .error _ => .ok settings
      | .ok entries =>
          .ok { data := Table.update settings.data entries, file := some path }

def mergeAll (tree : FileTree) (settings : Settings) : List Location → Except Fault Settings
  | [] => .ok settings
  | location :: rest =>
      match merge tree settings location with
      | .error fault => .error fault
      | .ok merged => mergeAll tree merged rest

/-- Loads the settings.  They are saved to the explicit file, or else to the one of the
highest precedence that could be read. -/
def load (tree : FileTree) (project explicit : Option String) : Except Fault Settings :=
  match explicitPath tree explicit with
  | .error fault => .error fault
  | .ok path =>
      match candidates fileName project path with
      | .error fault => .error fault
      | .ok locations =>
          (mergeAll tree ⟨[], none⟩ locations).map fun merged =>
            match path with
            | some path => { merged with file := some (FilePath.ofLocation path.location) }
            | none => merged

/-- Reads the first path that resolves, or gives the default. -/
def get (settings : Settings) (paths : List String) (default : Value) : Except Fault Value :=
  Nested.read (.map settings.data) paths default

def set (settings : Settings) (path : String) (value : Value) : Settings :=
  { settings with data := Nested.write settings.data path value }

/-- Writes the settings back to their file, if they have one. -/
def save (settings : Settings) (tree : FileTree) : Except Fault (FileTree × Bool) :=
  match settings.file with
  | none => .ok (tree, false)
  | some path => (tree.save path (.map settings.data)).map fun saved => (saved, true)

end Settings

end ChatDispatch
