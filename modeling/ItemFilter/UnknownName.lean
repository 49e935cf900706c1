/-
This file reads values by their names.
-/

import ItemFilter.Text.Quoted

namespace ItemFilter

/-- A name that no value of a type has. -/
structure UnknownName where
  name : Text
  type : String
deriving DecidableEq

def UnknownName.message (fault : UnknownName) : String :=
  fault.name.quoted.shown ++ " is not a valid " ++ fault.type

/-- The value with the given name. -/
def readName {α : Type} (ofName? : Text → Option α) (type : String) (name : Text) :
    Except UnknownName α :=
  match ofName? name with
  | some value => .ok value
  | none => .error ⟨name, type⟩

end ItemFilter
