/-
This file defines the values of decoded JSON documents. The order of the fields of an object is
never observed.
-/

import ItemFilter.Text.Basic

namespace ItemFilter

/-- Only the class of a number with a fraction or an exponent is kept. -/
inductive RealClass where
  | finite
  | notANumber
  | infinity
  | negativeInfinity
deriving DecidableEq

inductive Json where
  | null
  | boolean (value : Bool)
  | integer (value : Int)
  | real (value : RealClass)
  | string (value : Text)
  | array (items : List Json)
  | object (fields : List (Text × Json))

namespace Json

/-- The name of a value's type in messages. -/
def typeName : Json → String
  | .null => "NoneType"
  | .boolean _ => "bool"
  | .integer _ => "int"
  | .real _ => "float"
  | .string _ => "str"
  | .array _ => "list"
  | .object _ => "dict"

/-- The fields of an object. -/
def fields? : Json → Option (List (Text × Json))
  | .object fields => some fields
  | _ => none

def text? : Json → Option Text
  | .string value => some value
  | _ => none

/-- The items of an array; any other value has none. -/
def items : Json → List Json
  | .array items => items
  | _ => []

/-- A field's value; a missing field is null. -/
def field (fields : List (Text × Json)) (key : Text) : Json :=
  (fields.lookup key).getD .null

def hasField (fields : List (Text × Json)) (key : Text) : Bool :=
  (fields.lookup key).isSome

/-- A repeated key keeps its place and takes the later value. -/
def putField (key : Text) (value : Json) : List (Text × Json) → List (Text × Json)
  | [] => [(key, value)]
  | (other, old) :: rest =>
      if other = key then (key, value) :: rest else (other, old) :: putField key value rest

end Json

end ItemFilter
