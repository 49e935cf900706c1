/-
This file builds catalogs from grammars. A grammar that cannot be used gives an empty catalog and a
notice.
-/

import ItemFilter.Json.Reader
import ItemFilter.Rule
import ItemFilter.Text.Lines
import ItemFilter.Text.Utf8

namespace ItemFilter

inductive GrammarFault where
  | notAnObject
  | noRepository
deriving DecidableEq

def GrammarFault.message : GrammarFault → String
  | .notAnObject => "grammar document must be a JSON object"
  | .noRepository => "grammar document has no `repository` object"

/-- What is reported when a grammar is not used. -/
inductive Notice where
  | unusable (fault : GrammarFault)
  | unreadable
  | invalid
  | notAnObject (type : String)
deriving DecidableEq

namespace Notice

/-- The report with marks for its details. -/
def template : Notice → String
  | .unusable _ => "Filter grammar is unusable, command validation disabled: %s"
  | .unreadable => "Cannot read filter grammar %s: %s"
  | .invalid => "Filter grammar is not valid JSON: %s"
  | .notAnObject _ => "Filter grammar must be a JSON object, got %s"

/-- The report, with the detail that the grammar itself gives. -/
def message : Notice → String
  | .unusable fault =>
      "Filter grammar is unusable, command validation disabled: " ++ fault.message
  | .unreadable => "Cannot read filter grammar"
  | .invalid => "Filter grammar is not valid JSON"
  | .notAnObject type => "Filter grammar must be a JSON object, got " ++ type

end Notice

/-- A grammar breaks off with a rule that is not passed over, or with a numeral or a container in
its text. -/
inductive GrammarFailure where
  | rule (fault : RuleFault)
  | numeral (fault : NumeralTooLong)
  | tooDeep (fault : Json.TooDeep)
deriving DecidableEq

def GrammarFailure.message : GrammarFailure → String
  | .rule fault => fault.message
  | .numeral fault => fault.message
  | .tooDeep fault => fault.message

namespace Grammar

def repository (grammar : Json) : Except GrammarFault Rule.Fields :=
  match grammar with
  | .object fields =>
      match Json.field fields "repository".toList with
      | .object repository => .ok repository
      | _ => .error .noRepository
  | _ => .error .notAnObject

/-- The rules of a section stand in a list, or in the list of its patterns. -/
def sectionRules (repository : Rule.Fields) (category : Section) : List Json :=
  match Json.field repository category.name.toList with
  | .object fields => (Json.field fields "patterns".toList).items
  | value => value.items

/-- The names and signatures of one rule are added unless the rule is passed over. -/
def addRule [Host] (category : Section) (catalog : Catalog) (rule : Json) :
    Except RuleFault Catalog :=
  match Rule.read rule with
  | .ok (names, signatures) => .ok (names.foldl (Catalog.register category signatures) catalog)
  | .error fault => if fault.isPassedOver then .ok catalog else .error fault

def addSection [Host] (repository : Rule.Fields) (catalog : Catalog) (category : Section) :
    Except RuleFault Catalog :=
  (sectionRules repository category).foldlM (addRule category) catalog

def readRepository [Host] (repository : Rule.Fields) : Except RuleFault Catalog :=
  Section.all.foldlM (addSection repository) []

/-- The catalog of a decoded grammar. -/
def build [Host] (grammar : Json) : Except RuleFault (Catalog × List Notice) :=
  match repository grammar with
  | .error fault => .ok ([], [.unusable fault])
  | .ok repository => do return (← readRepository repository, [])

/-- The object that a text encodes. -/
def decode [Host] (text : Text) : Except GrammarFailure (Except Notice Rule.Fields) :=
  match Json.parse text with
  | .error (.numeral fault) => .error (.numeral fault)
  | .error (.tooDeep fault) => .error (.tooDeep fault)
  | .error .malformed => .ok (.error .invalid)
  | .ok (.object fields) => .ok (.ok fields)
  | .ok value => .ok (.error (.notAnObject value.typeName))

/-- The catalog of a grammar's text. -/
def load [Host] (text : Text) : Except GrammarFailure (Catalog × List Notice) :=
  match decode text with
  | .error failure => .error failure
  | .ok (.error notice) => .ok ([], [notice])
  | .ok (.ok fields) => (build (.object fields)).mapError .rule

/-- The catalog of a grammar's file; a file that is missing or no text gives none. -/
def loadFile [Host] (content : Option (List UInt8)) :
    Except GrammarFailure (Catalog × List Notice) :=
  match content.map Text.ofUtf8 with
  | some (.ok text) => load text.unifyNewlines
  | _ => .ok ([], [.unreadable])

end Grammar

end ItemFilter
