import ChatDispatch.FileTree

/-!
# Plugin modules

Running a plugin script gives a module.  The module of the last successful run is cached
under the location of the script, whatever path led to it; a failed run leaves the cache
as it was.
-/

namespace ChatDispatch

/-- Makes a file name a lower-case module name: what is neither a letter, a digit nor an
underscore becomes an underscore, and a leading digit gets one in front. -/
def moduleName (path : String) : String :=
  let stem := (stemAndSuffix (FilePath.ofText path).lastName).1
  let cleaned := stem.toList.map fun character =>
    if character.isAlphanum || character = '_' then character.toLower else '_'
  match cleaned with
  | [] => "_"
  | first :: _ =>
      String.ofList (if Text.isAsciiDigit first then '_' :: cleaned else cleaned)

/-- The name of a module: the given one, or a unique one that starts with a given text. -/
inductive ModuleName where
  | given (name : String)
  | generated (stem : String)
deriving DecidableEq, Repr

/-- The text of a name, as far as it is not chosen by chance. -/
def ModuleName.text : ModuleName → String
  | .given name => name
  | .generated stem => stem ++ "_"

/-- A module, numbered by the successful runs before it. -/
structure PluginModule where
  number : Nat
  name : ModuleName
  content : Script

/-- The cached modules by location, and the number of successful runs. -/
structure ModuleCache where
  modules : List (Location × PluginModule)
  runs : Nat

namespace ModuleCache

def empty : ModuleCache := ⟨[], 0⟩

/-- The module that running a node gives, unless it fails. -/
def run (source : String) : FileNode → Except Fault Script
  | .script (.factory _ _ (some message) _) => .error (.raised .runtime message)
  | .script content => .ok content
  | .directory => .error .isDirectory
  | .document .null => .ok (.empty "")
  | .document _ => .error (.malformed source)
  | .malformed => .error (.malformed source)

/-- The ending of the names of plugin scripts. -/
def scriptEnding : String := ".py"

/-- The ending of the names of compiled scripts. -/
def compiledEnding : String := ".pyc"

/-- The ending of the names of compiled extensions. -/
def extensionEnding : String := ".so"

/-- Whether the text of a path has an ending. -/
def hasEnding (ending source : String) : Bool :=
  ending.toList.isSuffixOf (FilePath.fullText source).toList

/-- How many bytes at the beginning of a compiled script are checked. -/
def magicSize : Nat := 4

/-- Why a file is no compiled script: none begins like one. -/
def compiledRefusal (source : String) (name : ModuleName) (node : Except Fault FileNode) :
    Fault :=
  match node with
  | .error fault => fault
  | .ok .directory => .isDirectory
  | .ok node =>
      match node.text? with
      | none => .notAScript source
      | some text => .badMagic name.text (String.ofList (text.toList.take magicSize))

/-- How many bytes a compiled extension has at least. -/
def headerSize : Nat := 64

/-- Why a file is no compiled extension: it is none, or cannot be opened. -/
def extensionRefusal (node : Except Fault FileNode) : String :=
  match node with
  | .error fault => "cannot open shared object file: " ++ fault.message
  | .ok .directory => "cannot read file data: " ++ Fault.isDirectory.message
  | .ok node =>
      if node.text?.any fun text => text.utf8ByteSize < headerSize then "file too short"
      else "invalid ELF header"

/-- Why the file under a path that is no script is not loaded. -/
def refusal (source : String) (name : ModuleName) (node : Except Fault FileNode) : Fault :=
  if hasEnding extensionEnding source then
    .badExtension (FilePath.fullText source) (extensionRefusal node)
  else if hasEnding compiledEnding source then
    compiledRefusal source name node
  else
    .notAScript source

def execute (cache : ModuleCache) (location : Location) (source : String)
    (name : ModuleName) (node : Except Fault FileNode) :
    ModuleCache × Except Fault PluginModule :=
  if !hasEnding scriptEnding source then
    (cache, .error (refusal source name node))
  else
    match node.bind (run source) with
    | .error fault => (cache, .error fault)
    | .ok content =>
        let loaded : PluginModule := ⟨cache.runs, name, content⟩
        (⟨Table.store location loaded cache.modules, cache.runs + 1⟩, .ok loaded)

/-- Loads the module of a script: the cached one, unless there is none or it is to be
run again. -/
def load (cache : ModuleCache) (location : Location) (source : String)
    (name : Option String) (reload : Bool) (node : Except Fault FileNode) :
    ModuleCache × Except Fault PluginModule :=
  let name := (name.map ModuleName.given).getD (.generated (moduleName source))
  match Table.lookup location cache.modules with
  | some loaded =>
      if reload then cache.execute location source name node else (cache, .ok loaded)
  | none => cache.execute location source name node

def loadPath (cache : ModuleCache) (tree : FileTree) (source : String)
    (name : Option String) (reload : Bool) : ModuleCache × Except Fault PluginModule :=
  let path := FilePath.ofText source
  match path.resolve with
  | .error fault => (cache, .error fault)
  | .ok location =>
      let found := tree.visitWritten (FilePath.fullText source) path
      cache.load location source name reload (found.map (·.2))

end ModuleCache

/-- A plugin script found under a path, with the location it is cached under. -/
structure ScriptFile where
  location : Location
  place : Location
  source : String

namespace ScriptFile

/-- Whether a directory entry is a plugin script by its name. -/
def isScriptName (name : String) : Bool :=
  ModuleCache.scriptEnding.toList.isSuffixOf name.toList && name.toList.head? != some '_'

/-- The scripts that a path leads to: one itself, or those in a directory. -/
def within (tree : FileTree) (path : FilePath) : Except Fault (List ScriptFile) :=
  (tree.look path).map fun found =>
    match found with
    | none => []
    | some (place, .directory) =>
        ((tree.children place).filter isScriptName).map fun name =>
          ⟨path.location ++ [name], place ++ [name], name⟩
    | some (place, _) =>
        if (stemAndSuffix path.lastName).2 = ModuleCache.scriptEnding then
          [⟨path.location, place, path.lastName⟩]
        else
          []

/-- The scripts under the path that a text writes, which may start at the home
directory. -/
def under (tree : FileTree) (text : String) : Except Fault (List ScriptFile) :=
  (FilePath.ofHomeText tree.accounts text).bind (within tree)

/-- The scripts under some paths; a value that is no path is a fault. -/
def underAll (tree : FileTree) : List Value → Except Fault (List ScriptFile)
  | [] => .ok []
  | .text text :: rest =>
      match under tree text with
      | .error fault => .error fault
      | .ok scripts => (underAll tree rest).map (scripts ++ ·)
  | value :: _ => .error (.notAPath value.kind)

def node (tree : FileTree) (script : ScriptFile) : Except Fault FileNode :=
  match tree.node? script.place with
  | some node => .ok node
  | none => .error .fileNotFound

end ScriptFile

end ChatDispatch
