/-
This file defines the command that prints a catalog.
-/

import ItemFilter.Console.Session

namespace ItemFilter.Console.Dump

def usage : Usage :=
  ⟨[helpOption, grammarOption], false⟩

def help : List String :=
  ["usage: dump_catalog.py [-h] [--grammar GRAMMAR]",
   "",
   "Dump the command catalog built from a filter grammar",
   "",
   "options:",
   "  -h, --help         show this help message and exit",
   "  --grammar GRAMMAR  Grammar JSON (default: bundled grammar)"]

def parameterText (parameter : Parameter) : String :=
  parameter.kind.name ++ parameter.mark ++ "[" ++ (parameter.pattern.getD "None".toList).shown ++ "]"

def signatureText (signature : Signature) : String :=
  if signature.isEmpty then "(no parameters)" else " ".intercalate (signature.map parameterText)

def commandLines (command : Command) : List String :=
  ("  " ++ command.name.shown) ::
    command.signatures.map fun signature => "    " ++ signatureText signature

/-- A section without commands is left out. -/
def sectionLines (catalog : Catalog) (category : Section) : List String :=
  match catalog.inSection category with
  | [] => []
  | commands => ("[" ++ category.name ++ "]") :: commands.flatMap commandLines

def catalogLines (catalog : Catalog) : List String :=
  Section.all.flatMap (sectionLines catalog) ++ ["Commands: " ++ toString catalog.length]

def run [Host] (session : Session) (arguments : List Text) : Except Failure Output :=
  match usage.read arguments with
  | .error .misuse => .ok ⟨.status 2, []⟩
  | .error .help => .ok ⟨.status 0, help⟩
  | .ok reading => do return ⟨.status 0, catalogLines (← session.catalog reading.grammar)⟩

end ItemFilter.Console.Dump
