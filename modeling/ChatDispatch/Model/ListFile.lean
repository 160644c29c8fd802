import ChatDispatch.FileTree
import ChatDispatch.Model

/-!
# Model lists in files

Model lists are merged from files in the given order.  A missing or blank file is
skipped; a file that holds anything but a list of models stops the merge, with what was
merged until then kept.
-/

namespace ChatDispatch.Model

/-- What a merge leaves: the models, and the merged paths or what stopped it. -/
structure Merge where
  models : List Model
  outcome : Except Fault (List String)

def mergeEntries (models : List Model) : List Value → List Model × Option Fault
  | [] => (models, none)
  | entry :: entries =>
      match ofValue entry with
      | .error fault => (models, some fault)
      | .ok model => mergeEntries (replace models model) entries

def mergeDocument (path : String) (models : List Model) (content : Value) :
    List Model × Option Fault :=
  let named (fault : Fault) : Fault := .modelList path fault.message
  match Declaration.itemsOf content with
  | .error fault => (models, some (named fault))
  | .ok entries =>
      let (merged, fault?) := mergeEntries models entries
      (merged, fault?.map named)

/-- Merges one file; the flag tells whether it was not skipped. -/
def mergeFile (tree : FileTree) (models : List Model) (path : String) :
    List Model × Except Fault Bool :=
  match tree.existing? path with
  | none => (models, .ok false)
  | some .directory => (models, .error .isDirectory)
  | some node =>
      match node.content? with
      | none => (models, .error (.modelList path (Fault.malformed path).message))
      | some .null => (models, .ok false)
      | some content =>
          match mergeDocument path models content with
          | (merged, some fault) => (merged, .error fault)
          | (merged, none) => (merged, .ok true)

/-- The bound that the numbers of open files stay below, upwards and downwards. -/
def descriptorBound : Int := Nat.pow 2 31

/-- The files that are always open: those for input, output and messages. -/
def openFiles : List Int := [0, 1, 2]

/-- Whether a value that is no text stands for an open file; the faults are those of
looking for it. -/
def isOpenFile : Value → Except Fault Bool
  | .bool _ => .ok true
  | .int number =>
      if descriptorBound ≤ number then .error .descriptorTooLarge
      else if number < -descriptorBound then .error .descriptorTooSmall
      else .ok (openFiles.contains number)
  | other => .error (.notAFileName other.kind)

/-- Merges the files that are named by the given values.  An open file has no path to read it
by; a number that is not one of an open file is skipped. -/
def mergeFiles (tree : FileTree) : List Model → List Value → Merge
  | models, [] => ⟨models, .ok []⟩
  | models, .text path :: paths =>
      match mergeFile tree models path with
      | (merged, .error fault) => ⟨merged, .error fault⟩
      | (merged, .ok used) =>
          let rest := mergeFiles tree merged paths
          ⟨rest.models, rest.outcome.map fun loaded => if used then path :: loaded else loaded⟩
  | models, value :: paths =>
      match isOpenFile value with
      | .error fault => ⟨models, .error fault⟩
      | .ok true => ⟨models, .error (.notAPath value.kind)⟩
      | .ok false => mergeFiles tree models paths

/-- The bundled models with those of the listed files merged into them. -/
def withListed (tree : FileTree) (files : Value) : Except Fault (List Model) :=
  match Declaration.itemsOf files with
  | .error fault => .error fault
  | .ok paths =>
      let merge := mergeFiles tree bundled paths
      merge.outcome.map fun _ => merge.models

end ChatDispatch.Model
