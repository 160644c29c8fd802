import ChatDispatch.Fault
import ChatDispatch.Text.Split

/-!
# File paths

A location is a sequence of names from the root of a tree of files.  The tree is part of a
larger one: a location outside begins with upward steps, or with an empty name if it is
counted from the root of the system.

A path tells how to get to a location: where it starts, and the names to follow from there,
among which are upward steps.  Idle names, which lead nowhere, are left out of a path, so
that equal paths have equal texts.

Following a path in a tree of files, its location is reached only if there are directories
on the way; `FilePath.location` does not look at any tree.
-/

namespace ChatDispatch

abbrev Location := List String

namespace Location

def home : Location := ["home"]

def work : Location := ["work"]

def upward : String := ".."

def top : Location := [""]

/-- Whether a location is the root, or lies above it. -/
def isAbove (location : Location) : Bool :=
  location.all fun name => name = upward || name = ""

/-- Follows one name.  Upward steps lead from the root out of the tree, and stop at the root
of the system. -/
def step (location : Location) (name : String) : Location :=
  if name = upward then
    match location.getLast? with
    | none => [upward]
    | some last =>
        if last = "" then location
        else if last = upward then location ++ [upward]
        else location.dropLast
  else
    location ++ [name]

/-- The home directory of an account, if there is such an account; no name stands for the
own one. -/
def homeOf? (accounts : List (String × List String)) (account : String) : Option Location :=
  if account = "" then some home
  else (accounts.lookup account).map fun names => names.foldl step top

/-- The text of a location as it is seen from the root. -/
def text (location : Location) : String :=
  if location = [] then "." else String.intercalate "/" location

/-- How the root is written where a location is named from the root of the system on. -/
def rootText : String := "<root>"

end Location

/-- A path: the location it starts from, and the names to follow. -/
structure FilePath where
  start : Location
  names : List String
deriving DecidableEq, Repr

namespace FilePath

def isIdle (name : String) : Bool :=
  name = "" || name = "."

/-- The names that a path is made of, without idle ones. -/
def namesOf (text : String) : List String :=
  (Text.pieces '/' text).filter fun name => !isIdle name

def isAbsolute (text : String) : Bool :=
  text.toList.head? == some '/'

/-- The path that a text writes; it starts at the root of the system or in the current
directory. -/
def ofText (text : String) : FilePath :=
  ⟨if isAbsolute text then Location.top else Location.work, namesOf text⟩

/-- The account that a first name refers to by a tilde, which is empty for the own one. -/
def account? (name : String) : Option String :=
  match name.toList with
  | '~' :: account => some (String.ofList account)
  | _ => none

/-- The path that a text writes, if it may also start at the home directory of an
account.  The accounts are given with the names on the way from the root of the system to
their home directories. -/
def ofHomeText (accounts : List (String × List String)) (text : String) :
    Except Fault FilePath :=
  match isAbsolute text, namesOf text with
  | false, first :: rest =>
      match account? first with
      | none => .ok (ofText text)
      | some account =>
          if account.toList.contains '\x00' then
            .error .nullInPath
          else
            match Location.homeOf? accounts account with
            | some home => .ok ⟨home, rest⟩
            | none => .error .noHome
  | _, _ => .ok (ofText text)

def ofLocation (location : Location) : FilePath :=
  ⟨[], location⟩

def child (path : FilePath) (name : String) : FilePath :=
  { path with names := path.names ++ [name] }

def location (path : FilePath) : Location :=
  path.names.foldl Location.step path.start

/-- Whether a null character is in a path, which no file can have in its name. -/
def hasNull (path : FilePath) : Bool :=
  path.names.any fun name => name.toList.contains '\x00'

/-- The location that a path denotes, if it can denote one. -/
def resolve (path : FilePath) : Except Fault Location :=
  if path.hasNull then .error .nullInPath else .ok path.location

def lastName (path : FilePath) : String :=
  (path.names.getLast?).getD ""

/-- The text of a path; a path in the current directory is shown as it is written. -/
def text (path : FilePath) : String :=
  if path.start = Location.work then
    if path.names.isEmpty then "." else String.intercalate "/" path.names
  else
    "/" ++ String.intercalate "/" ((path.start ++ path.names).filter (· != ""))

/-- Whether a text writes a path that has to lead to a directory. -/
def wantsDirectory (text : String) : Bool :=
  ((Text.pieces '/' text).getLast?).any isIdle

def withoutSlashes (text : String) : String :=
  String.ofList ((text.toList.reverse.dropWhile (· == '/')).reverse)

/-- The text of a path from the root of the system on; only slashes at the end of a path
from the current directory are dropped. -/
def fullText (text : String) : String :=
  if isAbsolute text then
    text
  else
    String.intercalate "/" [Location.rootText, Location.work.text, withoutSlashes text]

@[simp]
theorem location_ofLocation (location : Location) (plain : Location.upward ∉ location) :
    (ofLocation location).location = location := by
  suffices grown : ∀ (start names : Location), Location.upward ∉ names →
      names.foldl Location.step start = start ++ names by
    simpa [ofLocation, FilePath.location] using grown [] location plain
  intro start names
  induction names generalizing start with
  | nil => simp
  | cons name names inductionHypothesis =>
      intro plain
      have forward : name ≠ Location.upward := fun same => plain (by simp [same])
      have rest : Location.upward ∉ names := fun member => plain (by simp [member])
      simp [Location.step, forward, inductionHypothesis _ rest]

end FilePath

end ChatDispatch
