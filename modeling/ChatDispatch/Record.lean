import ChatDispatch.Fault
import ChatDispatch.Table

/-!
# Records from fields

A record is made from named fields, of which some are required.  A field that is given twice
is refused first, then one whose key is no name, then one that the record does not know or
that has the name of the record itself, and only then the lack of a required one.
-/

namespace ChatDispatch

/-- What a record accepts: the maker named in faults, the fields it knows in order, and
how many of the first ones are required. -/
structure RecordShape where
  maker : String
  fields : List String
  required : Nat

/-- Two groups of fields together; none may be in both. -/
def joinFields {β : Type} (maker : String) (given : List (Key × β)) (more : List (String × β)) :
    Except Fault (List (Key × β)) :=
  match more.find? fun field => Table.holds (Key.text field.1) given with
  | some field => .error (.repeatedField maker field.1)
  | none => .ok (given ++ more.map fun field => (Key.text field.1, field.2))

/-- The names that keys are; a key that is no text is a fault. -/
def fieldNames : List Key → Except Fault (List String)
  | [] => .ok []
  | .text name :: keys => (fieldNames keys).map (name :: ·)
  | _ :: _ => .error .unnamedFields

/-- The name under which a maker is given the record itself, which no field can have. -/
def RecordShape.itself : String := "self"

/-- Whether fields of the given names make a record of the shape. -/
def RecordShape.accepts (shape : RecordShape) (names : List String) : Except Fault Unit :=
  match names.find? fun name => !shape.fields.contains name with
  | some name =>
      if name = RecordShape.itself then .error (.reservedField shape.maker name)
      else .error (.unexpectedField shape.maker name)
  | none =>
      match (shape.fields.take shape.required).filter fun name => !names.contains name with
      | [] => .ok ()
      | missing => .error (.missingFields shape.maker missing)

/-- Whether the given fields make a record of the shape. -/
def RecordShape.check {β : Type} (shape : RecordShape) (given : List (Key × β)) :
    Except Fault Unit :=
  (fieldNames (given.map (·.1))).bind shape.accepts

def fieldOr (given : Entries) (name : String) (default : Value) : Value :=
  (Table.lookup (Key.text name) given).getD default

end ChatDispatch
