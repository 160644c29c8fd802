import ChatDispatch.Fault
import ChatDispatch.Table
import ChatDispatch.Text.Digit
import ChatDispatch.Text.Split

/-!
# Nested settings

Settings are read and written by dotted paths.  A segment selects an item of a list by
its index and an entry of a map by its key, where dashes and underscores stand for
each other.
-/

namespace ChatDispatch.Nested

/-- The spellings under which a key is looked for: as it is, with underscores for its
dashes, and with dashes for its underscores. -/
def spellings (key : String) : List String :=
  [key] ++
    (if key.toList.contains '-' then [Text.replaceChar '-' '_' key] else []) ++
    (if key.toList.contains '_' then [Text.replaceChar '_' '-' key] else [])

/-- The first present spelling of a key, with the value it has. -/
def find? (key : String) (entries : Entries) : Option (String × Value) :=
  (spellings key).findSome? fun spelling =>
    (Table.lookup (Key.text spelling) entries).map fun value => (spelling, value)

/-- The number that a text of digits writes; not all digits have a decimal value. -/
def index (segment : String) : Except Fault Nat :=
  let digits := segment.toList
  let run := digits.takeWhile fun digit => (Text.decimalValue? digit).isSome
  if 4300 < run.length then
    .error (.integerTooLong run.length)
  else if run.length < digits.length then
    .error (.notAnInteger segment)
  else
    .ok (digits.foldl (fun total digit => 10 * total + (Text.decimalValue? digit).getD 0) 0)

def isIndex (segment : String) : Bool :=
  !segment.toList.isEmpty && segment.toList.all Text.isDigit

/-- What a segment selects in a value: an item, the entry of a key, or an attribute. -/
def select (segment : String) : Value → Except Fault (Option Value)
  | .list items =>
      if isIndex segment then
        match index segment with
        | .ok position => .ok items[position]?
        | .error fault => .error fault
      else
        .ok none
  | .map entries => .ok ((find? segment entries).map (·.2))
  | .callable _ attributes => .ok ((find? segment attributes).map (·.2))
  | _ => .ok none

def follow : List String → Value → Except Fault (Option Value)
  | [], value => .ok (some value)
  | segment :: rest, value =>
      match select segment value with
      | .ok (some inner) => follow rest inner
      | .ok none => .ok none
      | .error fault => .error fault

def segments (path : String) : List String :=
  Text.pieces '.' path

/-- The value of the first path that leads to something other than `null`. -/
def readFirst (data : Value) : List String → Except Fault (Option Value)
  | [] => .ok none
  | path :: paths =>
      match follow (segments path) data with
      | .ok none => readFirst data paths
      | .ok (some .null) => readFirst data paths
      | .ok (some value) => .ok (some value)
      | .error fault => .error fault

/-- Reads the first path that resolves, or gives the default. -/
def read (data : Value) (paths : List String) (default : Value) : Except Fault Value :=
  match data with
  | .null => .ok default
  | data => (readFirst data paths).map fun found => found.getD default

/-- The map that a segment selects for writing into, with the key it is stored under; a
new map under the segment itself where there is none. -/
def branch (segment : String) (entries : Entries) : String × Entries :=
  match find? segment entries with
  | some (key, .map inner) => (key, inner)
  | _ => (segment, [])

/-- Writes a value at a sequence of segments, making maps on the way.  The last segment
keeps the spelling of an entry that is present. -/
def writeAt (value : Value) : List String → Entries → Entries
  | [], entries => entries
  | [last], entries =>
      match find? last entries with
      | some (key, _) => Table.store (Key.text key) value entries
      | none => Table.store (Key.text last) value entries
  | segment :: next :: rest, entries =>
      let (key, inner) := branch segment entries
      Table.store (Key.text key) (.map (writeAt value (next :: rest) inner)) entries

def write (entries : Entries) (path : String) (value : Value) : Entries :=
  writeAt value (segments path) entries

end ChatDispatch.Nested
