/-
This file defines catalogs: the commands that a grammar knows, in the order it first names them.
-/

import ItemFilter.Parameter

namespace ItemFilter

/-- The parts of a grammar that declare commands. -/
inductive Section where
  | blocks
  | controlFlow
  | conditions
  | actions
deriving DecidableEq

namespace Section

/-- The order in which the sections are read. -/
def all : List Section :=
  [.blocks, .controlFlow, .conditions, .actions]

def name : Section → String
  | .blocks => "blocks"
  | .controlFlow => "controlFlow"
  | .conditions => "conditions"
  | .actions => "actions"

def ofName? (text : Text) : Option Section :=
  all.find? fun category => category.name.toList == text

end Section

/-- A command and the signatures that it accepts. -/
structure Command where
  name : Text
  category : Section
  signatures : List Signature
deriving DecidableEq

namespace Command

def isBlock (command : Command) : Bool :=
  command.category == .blocks

def hasSignature (signatures : List Signature) (signature : Signature) : Bool :=
  signatures.any signature.same

/-- The signatures that the command does not have yet come after its own. -/
def merge (command : Command) (signatures : List Signature) : Command :=
  { command with
    signatures := signatures.foldl (fun known signature =>
      if hasSignature known signature then known else known ++ [signature]) command.signatures }

end Command

/-- A catalog without commands switches the checking of lines off. -/
abbrev Catalog := List Command

namespace Catalog

def names (catalog : Catalog) : List Text :=
  catalog.map Command.name

def find? (catalog : Catalog) (name : Text) : Option Command :=
  List.find? (fun command => command.name == name) catalog

def hasName (catalog : Catalog) (name : Text) : Bool :=
  (catalog.find? name).isSome

def inSection (catalog : Catalog) (category : Section) : List Command :=
  catalog.filter fun command => command.category == category

/-- A command takes the place of one with the same name. -/
def put (command : Command) : Catalog → Catalog
  | [] => [command]
  | other :: rest => if other.name = command.name then command :: rest else other :: put command rest

def ofCommands (commands : List Command) : Catalog :=
  commands.foldl (fun catalog command => put command catalog) []

/-- A name that is known keeps its section and gains signatures. -/
def register (category : Section) (signatures : List Signature) (catalog : Catalog) (name : Text) :
    Catalog :=
  match catalog.find? name with
  | none => catalog ++ [⟨name, category, signatures⟩]
  | some known => catalog.put (known.merge signatures)

end Catalog

end ItemFilter
