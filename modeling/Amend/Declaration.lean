/-
# Amend.Declaration — entities declared by items

`Item.derive` makes an entity of an item with named fields.  A field's property is
its name without the `r#` of a raw name.  Fields that are not left out become the
columns of the entity, in order; one of them at most is the key.

The table is the item's name in small letters joined by underscores unless an
attribute names it.  For each column there is a constant, named `COL_` and the
property in capital letters, and an arm that reads the value from the field.
-/
import Amend.Declaration.Attribute
import Amend.Entity
import Amend.Text.Words

set_option autoImplicit false

namespace Amend.Declaration

/-- A field with a name; its type does not matter. -/
structure Field where
  name : String
  attributes : List Attribute := []
  deriving DecidableEq, Repr

/-- The shape of an item, with its fields where they have names. -/
inductive Shape where
  | struct (fields : List Field)
  | tuple
  | unit
  | enum
  | union (fields : List Field)
  deriving DecidableEq, Repr

/-- An item of a program, of which an entity may be made. -/
structure Item where
  name : String
  shape : Shape
  attributes : List Attribute := []
  deriving DecidableEq, Repr

/-- Why no entity can be made of an item. -/
inductive Fault where
  | noStruct
  | noNamedFields
  | attribute (fault : SyntaxFault)
  /-- The key is left out. -/
  | skippedId
  | secondId
  deriving DecidableEq, Repr

def Fault.message : Fault → String
  | .noStruct => "Entity can only be derived for structs"
  | .noNamedFields => "Entity can only be derived for structs with named fields"
  | .attribute fault => fault.message
  | .skippedId => "#[orm(id)] field cannot also be #[orm(skip)]"
  | .secondId => "only one field can be marked #[orm(id)]"

structure Column where
  property : String
  /-- The name of the field, raw if it is written so. -/
  field : String
  isId : Bool
  column : Option String
  deriving DecidableEq, Repr

/-- An entity and what belongs to it. -/
structure Derived where
  target : String
  entity : Entity
  /-- The constants by name, each with the property it holds. -/
  constants : List (String × String)
  /-- The properties, each with the field it is read from. -/
  arms : List (String × String)
  deriving DecidableEq, Repr

/-- A row of the entity, from the values of the fields by their names. -/
def Derived.row (d : Derived) (fields : String → Value) : Row :=
  fun property => (d.arms.lookup property).map fields

/-- The name without the mark of a raw name. -/
def unraw (name : String) : String :=
  match name.toList with
  | 'r' :: '#' :: rest => String.ofList rest
  | _ => name

/-- The fields of an item that can be an entity. -/
def Item.fields (i : Item) : Except Fault (List Field) :=
  match i.shape with
  | .struct fields => .ok fields
  | .tuple | .unit => .error .noNamedFields
  | .enum | .union _ => .error .noStruct

/-- The columns of some fields, where the key may have been seen already. -/
def columns (idSeen : Bool) : List Field → Except Fault (List Column)
  | [] => .ok []
  | f :: rest => do
    let role ← (fieldRole f.attributes).mapError Fault.attribute
    if role.skip then
      if role.isId then .error .skippedId else columns idSeen rest
    else if role.isId && idSeen then .error .secondId
    else
      return ⟨unraw f.name, f.name, role.isId, role.column⟩
        :: (← columns (idSeen || role.isId) rest)

def constantName (property : String) : String := "COL_" ++ Text.capitalSnake property

def Item.derive (i : Item) : Except Fault Derived := do
  let fields ← i.fields
  let names ← (tableNames i.attributes).mapError Fault.attribute
  let columns ← columns false fields
  return {
    target := i.name
    entity := {
      table := names.table.getD (Text.snake i.name)
      schema := names.schema
      identity := (columns.find? Column.isId).map Column.property
      columns := columns.map Column.property
      mappings := columns.filterMap fun c => c.column.map (c.property, ·) }
    constants := columns.map fun c => (constantName c.property, c.property)
    arms := columns.map fun c => (c.property, c.field) }

end Amend.Declaration
