/-
This file reads command lines. Options may be shortened as long as they stay unambiguous, and all
operands stand in one run. After `--` everything is an operand.
-/

import ItemFilter.Text.Digit

namespace ItemFilter.Console

/-- What an option takes. -/
inductive Taking where
  | nothing
  | value
  | oneOf (choices : List Text)
  | help
deriving DecidableEq

structure OptionRule where
  name : Text
  taking : Taking
deriving DecidableEq

/-- The options of a command, and whether it needs operands. -/
structure Usage where
  options : List OptionRule
  takesOperands : Bool
deriving DecidableEq

/-- A command line is answered with help or refused. -/
inductive Refusal where
  | help
  | misuse
deriving DecidableEq

/-- One word of a command line. -/
inductive Word where
  | operand (text : Text)
  | separator
  | option (rule : OptionRule) (value : Option Text)
  | shortHelp (tail : Text)
  | stray
deriving DecidableEq

namespace Word

/-- A word with a dash before a decimal number is an operand. -/
def isNegativeNumber (text : Text) : Bool :=
  let body := if text.getLast? = some '\n' then text.dropLast else text
  match body with
  | '-' :: number =>
      match number.dropWhile Text.isDigit with
      | [] => !number.isEmpty
      | '.' :: fraction => !fraction.isEmpty && fraction.all Text.isDigit
      | _ => false
  | _ => false

/-- The text before the first equals sign and the text after it. -/
def splitValue (text : Text) : Text × Option Text :=
  match text.dropWhile (· != '=') with
  | [] => (text, none)
  | _ :: value => (text.takeWhile (· != '='), some value)

/-- The option that a word names in full, or else the only one that it begins. -/
def findOption (options : List OptionRule) (name : Text) : Except Refusal (Option OptionRule) :=
  match options.find? (·.name == name), options.filter fun rule => name.isPrefixOf rule.name with
  | some rule, _ => .ok (some rule)
  | none, [] => .ok none
  | none, [rule] => .ok (some rule)
  | none, _ => .error .misuse

/-- A word with a dash that names no option. -/
def unknown (text : Text) : Word :=
  if isNegativeNumber text || text.contains ' ' then .operand text else .stray

def read (options : List OptionRule) (text : Text) : Except Refusal Word :=
  match text with
  | '-' :: '-' :: _ =>
      let (name, value) := splitValue text
      do return match ← findOption options name with
        | some rule => .option rule value
        | none => unknown text
  | '-' :: 'h' :: tail => .ok (.shortHelp tail)
  | ['-'] => .ok (.operand text)
  | '-' :: _ => .ok (unknown text)
  | _ => .ok (.operand text)

/-- The words up to the first separator are read, and those after it are operands. -/
def readAll (options : List OptionRule) : List Text → Except Refusal (List Word)
  | [] => .ok []
  | text :: rest =>
      if text = ['-', '-'] then .ok (.separator :: rest.map .operand)
      else do return (← read options text) :: (← readAll options rest)

end Word

/-- What follows a short option for help in its word, perhaps after an equals sign, can only be the
same option again. -/
def shortHelp (tail : Text) : Refusal :=
  let isHelp :=
    match tail with
    | '=' :: repeated => !repeated.isEmpty && repeated.all (· == 'h')
    | _ => tail.all (· == 'h')
  if isHelp then .help else .misuse

/-- The one run of operands. -/
inductive Operands where
  | awaited
  | taken (texts : List Text)
  | closed (texts : List Text)
deriving DecidableEq

namespace Operands

def texts : Operands → List Text
  | .awaited => []
  | .taken texts | .closed texts => texts

/-- An option ends a run that has begun. -/
def close : Operands → Operands
  | .taken texts => .closed texts
  | operands => operands

def push (operands : Operands) (text : Text) : Option Operands :=
  match operands with
  | .awaited => some (.taken [text])
  | .taken texts => some (.taken (texts ++ [text]))
  | .closed _ => none

end Operands

/-- What has been read: the operands, the options with their values if they have any, and whether a
word was left over. -/
structure Reading where
  operands : Operands
  settings : List (Text × Option Text)
  leftover : Bool
deriving DecidableEq

namespace Reading

def start (usage : Usage) : Reading :=
  ⟨if usage.takesOperands then .awaited else .closed [], [], false⟩

def strand (reading : Reading) : Reading :=
  { reading with leftover := true }

def pushOperand (reading : Reading) (text : Text) : Reading :=
  match reading.operands.push text with
  | some operands => { reading with operands := operands }
  | none => reading.strand

/-- A separator belongs to the run of operands around it. -/
def pushSeparator (reading : Reading) : Reading :=
  match reading.operands with
  | .closed _ => reading.strand
  | _ => reading

def set (reading : Reading) (name : Text) (value : Option Text) : Reading :=
  { reading with operands := reading.operands.close, settings := (name, value) :: reading.settings }

/-- An option is given a value that it allows. A separator is no value and leaves the option
without one. -/
def setValue (reading : Reading) (rule : OptionRule) (value : Text) : Except Refusal Reading :=
  let given := if value = ['-', '-'] then none else some value
  match rule.taking with
  | .value => .ok (reading.set rule.name given)
  | .oneOf choices =>
      if given.all choices.contains then .ok (reading.set rule.name given) else .error .misuse
  | .nothing | .help => .error .misuse

def setBare (reading : Reading) (rule : OptionRule) : Except Refusal Reading :=
  match rule.taking with
  | .nothing => .ok (reading.set rule.name none)
  | .help => .error .help
  | .value | .oneOf _ => .error .misuse

/-- The option takes its value from the next word. -/
def takesNext (rule : OptionRule) : Bool :=
  match rule.taking with
  | .value | .oneOf _ => true
  | .nothing | .help => false

def readFrom (reading : Reading) : List Word → Except Refusal Reading
  | [] => .ok reading
  | .operand text :: rest => (reading.pushOperand text).readFrom rest
  | .separator :: rest => reading.pushSeparator.readFrom rest
  | .stray :: rest => { reading.strand with operands := reading.operands.close }.readFrom rest
  | .shortHelp tail :: _ => .error (shortHelp tail)
  | .option rule (some value) :: rest => do (← reading.setValue rule value).readFrom rest
  | .option rule none :: .operand value :: rest =>
      if takesNext rule then do (← reading.setValue rule value).readFrom rest
      else do ((← reading.setBare rule).pushOperand value).readFrom rest
  | .option rule none :: rest => do (← reading.setBare rule).readFrom rest

/-- What was given to an option the last time, if the option is there. -/
def setting? (reading : Reading) (name : Text) : Option (Option Text) :=
  reading.settings.lookup name

def has (reading : Reading) (name : Text) : Bool :=
  (reading.setting? name).isSome

end Reading

namespace Usage

/-- A command line is complete when no word is left over and operands are there if needed. -/
def read (usage : Usage) (texts : List Text) : Except Refusal Reading := do
  let reading ← (Reading.start usage).readFrom (← Word.readAll usage.options texts)
  if reading.leftover || (usage.takesOperands && reading.operands.texts.isEmpty) then
    .error .misuse
  else return reading

end Usage

end ItemFilter.Console
