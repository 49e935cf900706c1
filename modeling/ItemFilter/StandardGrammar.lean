/-
This file holds the grammar that is used unless another one is given.
-/

import ItemFilter.Grammar

namespace ItemFilter.StandardGrammar

/-- The end of every scope label. -/
def labelEnd : String := ".poe2filter"

/-- Scope labels under the numbers of their groups. -/
def captures (labels : List String) : List (Text × Json) :=
  labels.zipIdx.map fun (label, index) =>
    (Text.ofNat (index + 1),
      .object [("name".toList, .string (label ++ labelEnd).toList)])

/-- A form of the arguments, with a scope label for each of its groups. -/
def form (expression : String) (labels : List String) : Json :=
  .object [("match".toList, .string expression.toList),
    ("captures".toList, .object (captures labels))]

/-- Commands that take arguments. -/
def rule (expression : String) (forms : List Json) : Json :=
  .object [("begin".toList, .string expression.toList), ("patterns".toList, .array forms)]

/-- Commands that stand alone. -/
def bareRule (expression : String) : Json :=
  .object [("match".toList, .string expression.toList)]

def blocks : List Json :=
  [ bareRule "^\\s*(Show|Hide|Minimal)\\b" ]

def controlFlow : List Json :=
  [ bareRule "\\b(Continue)\\b" ]

def conditions : List Json :=
  [ rule ("^\\s*(AreaLevel|ItemLevel|DropLevel|Quality|Sockets|Height|Width|StackSize|" ++
        "WaystoneTier|UnidentifiedItemTier|BaseArmour|BaseEvasion|BaseEnergyShield|" ++
        "BaseWard)\\b")
        [ form "(\\d+)"
            ["constant.numeric"],
          form "(==|=|!=|<=|>=|<|>)\\s*(\\d+)"
            ["keyword.operator.comparison", "constant.numeric"] ],
    rule "^\\s*(Rarity)\\b"
        [ form "(Normal|Magic|Rare|Unique)(?:\\s+(?:Normal|Magic|Rare|Unique))*"
            ["constant.language.rarity"],
          form "(==|=|!=|<=|>=|<|>)\\s*(Normal|Magic|Rare|Unique)"
            ["keyword.operator.comparison", "constant.language.rarity"] ],
    rule "^\\s*(Class|BaseType|HasExplicitMod|HasEnchantment)\\b"
        [ form "(\"[^\"]*\"(?:\\s+\"[^\"]*\")*)"
            ["string.quoted.double"],
          form "(==|=)\\s*(\"[^\"]*\"(?:\\s+\"[^\"]*\")*)"
            ["keyword.operator.comparison", "string.quoted.double"] ],
    rule ("^\\s*(Identified|Corrupted|Mirrored|AnyEnchantment|FracturedItem|SynthesisedItem|" ++
        "Replica)\\b")
        [ form "\\b(True|False)\\b"
            ["constant.language.boolean"] ] ]

def actions : List Json :=
  [ rule "^\\s*(SetTextColor|SetBorderColor|SetBackgroundColor)\\b"
        [ form "(\\d+)\\s+(\\d+)\\s+(\\d+)(?:\\s+(\\d+))?"
            ["constant.numeric.color.red", "constant.numeric.color.green",
             "constant.numeric.color.blue", "constant.numeric.color.alpha"] ],
    rule "^\\s*(SetFontSize)\\b"
        [ form "(\\d+)"
            ["constant.numeric.size"] ],
    rule "^\\s*(PlayAlertSound|PlayAlertSoundPositional)\\b"
        [ form "(\\d+)(?:\\s+(\\d+))?"
            ["constant.numeric.sound-id", "constant.numeric.volume"],
          form "(Sh[A-Z][A-Za-z]+)(?:\\s+(\\d+))?"
            ["constant.language.sound-id", "constant.numeric.volume"] ],
    rule "^\\s*(CustomAlertSound|CustomAlertSoundOptional)\\b"
        [ form "(\"[^\"]+\")(?:\\s+(\\d+))?"
            ["string.quoted.double.path", "constant.numeric.volume"] ],
    rule "^\\s*(MinimapIcon)\\b"
        [ form "(-1)"
            ["constant.numeric.size.disabled"],
          form ("(0|1|2)\\s+(Red|Green|Blue|Brown|White|Yellow|Cyan|Grey|Orange|Pink|" ++
            "Purple)\\s+(Circle|Diamond|Hexagon|Square|Star|Triangle|Cross|Moon|Raindrop|" ++
            "Kite|Pentagon|UpsideDownHouse)")
            ["constant.numeric.size", "support.constant.color", "support.constant.shape"] ],
    rule "^\\s*(PlayEffect)\\b"
        [ form "(None)"
            ["constant.language.none"],
          form "(Red|Green|Blue|Brown|White|Yellow|Cyan|Grey|Orange|Pink|Purple)(?:\\s+(Temp))?"
            ["support.constant.color", "constant.language.temp"] ],
    bareRule ("^\\s*(DisableDropSound|EnableDropSound|DisableDropSoundIfAlertSound|" ++
        "EnableDropSoundIfAlertSound)\\b") ]

def sectionOf (category : Section) : List Json :=
  match category with
  | .blocks => blocks
  | .controlFlow => controlFlow
  | .conditions => conditions
  | .actions => actions

def repository : List (Text × Json) :=
  Section.all.map fun category =>
    (category.name.toList, .object [("patterns".toList, .array (sectionOf category))])

def grammar : Json :=
  .object [("repository".toList, .object repository)]

def load [Host] : Except GrammarFailure (Catalog × List Notice) :=
  (Grammar.build grammar).mapError .rule

end ItemFilter.StandardGrammar
