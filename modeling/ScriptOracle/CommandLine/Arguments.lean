import ScriptOracle.Number.Decimal

/-!
# Arguments

The first argument names a command. What follows it are options, which start with two dashes and take a
value each, and operands. An option that is not given may be taken from a variable, and `--` ends the
options. Arguments are looked at one after the other, and the first that is at fault, or asks for help,
decides.
-/

namespace ScriptOracle.CommandLine

inductive ValueKind where
  | text
  /-- Texts with commas between. Such an option may be given more than once. -/
  | texts
  /-- A number of thirty-two bits. -/
  | number
  /-- A number of sixty-four bits; not even zero may have a minus sign. -/
  | size
deriving DecidableEq, Repr

structure OptionRule where
  name : String
  kind : ValueKind
  /-- The variable that stands in for the option. -/
  fallback : Option String
  required : Bool
deriving DecidableEq, Repr

structure CommandRule where
  name : String
  options : List OptionRule
  /-- The least number of operands. -/
  least : Nat
  /-- The greatest number of operands, if there is one. -/
  most : Option Nat
deriving DecidableEq, Repr

inductive Refusal where
  /-- The arguments are not in order. -/
  | misuse
  /-- Someone asks for help. -/
  | help
  /-- Someone asks for the version. -/
  | version
deriving DecidableEq, Repr

/-- What was found in arguments: operands, and the values of options in the order in which they were
given. -/
structure Found where
  operands : List String
  values : List (String × List String)
deriving DecidableEq, Repr

namespace Found

def nothing : Found := ⟨[], []⟩

def has (found : Found) (name : String) : Bool := found.values.any (·.1 == name)

def texts (found : Found) (name : String) : List String :=
  (found.values.filter (·.1 == name)).flatMap (·.2)

/-- The first value of an option. -/
def text? (found : Found) (name : String) : Option String := (found.texts name).head?

end Found

def ValueKind.accepts (kind : ValueKind) (value : String) : Bool :=
  match kind with
  | .text => true
  | .texts => true
  | .number => (Whole.readSigned? value).any fun (n : Int) => 0 ≤ n && n < (1 <<< 32 : Nat)
  | .size => (Whole.read? (1 <<< 64) value).isSome

def ValueKind.split (kind : ValueKind) (value : String) : List String :=
  match kind with
  | .texts => value.splitOn ","
  | _ => [value]

namespace CommandRule

def option? (rule : CommandRule) (name : String) : Option OptionRule :=
  rule.options.find? (·.name == name)

def addValue (found : Found) (option : OptionRule) (value : String) : Except Refusal Found :=
  if !(option.kind.accepts value) then .error .misuse
  else if option.kind != .texts && found.has option.name then .error .misuse
  else .ok { found with values := found.values ++ [(option.name, option.kind.split value)] }

def addOperand (rule : CommandRule) (found : Found) (operand : String) : Except Refusal Found :=
  let found := { found with operands := found.operands ++ [operand] }
  if rule.most.any (· < found.operands.length) then .error .misuse else .ok found

def addOperands (rule : CommandRule) (found : Found) : List String -> Except Refusal Found
  | [] => .ok found
  | operand :: rest => do
    let found ← rule.addOperand found operand
    addOperands rule found rest

/-- Splits the text behind two dashes at its first equals sign. -/
def splitValue (chars : List Char) : String × Option String :=
  let name := chars.takeWhile (· != '=')
  match chars.drop name.length with
  | [] => (String.ofList name, none)
  | _ :: value => (String.ofList name, some (String.ofList value))

inductive Argument where
  | operand
  | endOfOptions
  | long (name : String) (value : Option String)
  | short (letter : Char)
deriving DecidableEq, Repr

/-- Tells what an argument is. A dash alone is an operand. -/
def Argument.ofText (text : String) : Argument :=
  match text.toList with
  | ['-', '-'] => .endOfOptions
  | '-' :: '-' :: rest =>
    let (name, value) := splitValue rest
    .long name value
  | '-' :: letter :: _ => .short letter
  | _ => .operand

/-- Looks at arguments one after the other. An option without its value waits for it, and does not take
another option for one. -/
def scan (rule : CommandRule) (found : Found) (waiting : Option OptionRule) :
    List String -> Except Refusal Found
  | [] => if waiting.isSome then .error .misuse else .ok found
  | text :: rest =>
    match waiting, Argument.ofText text with
    | some option, .operand => do
      let found ← addValue found option text
      scan rule found none rest
    | some _, _ => .error .misuse
    | none, .operand => do
      let found ← rule.addOperand found text
      scan rule found none rest
    | none, .endOfOptions => rule.addOperands found rest
    | none, .short letter => .error (if letter = 'h' then .help else .misuse)
    | none, .long name value =>
      if name = "help" && value.isNone then .error .help
      else
        match rule.option? name, value with
        | none, _ => .error .misuse
        | some option, none => scan rule found (some option) rest
        | some option, some value => do
          let found ← addValue found option value
          scan rule found none rest

/-- Takes the value of an option from its variable, if it was not given. -/
def fallBack (lookup : String -> Option String) (found : Found) (option : OptionRule) :
    Except Refusal Found :=
  if found.has option.name then .ok found
  else
    match option.fallback.bind lookup with
    | some value => addValue found option value
    | none => if option.required then .error .misuse else .ok found

def fallBackAll (lookup : String -> Option String) (found : Found) :
    List OptionRule -> Except Refusal Found
  | [] => .ok found
  | option :: rest => do
    let found ← fallBack lookup found option
    fallBackAll lookup found rest

def read (rule : CommandRule) (lookup : String -> Option String) (arguments : List String) :
    Except Refusal Found := do
  let found ← rule.scan .nothing none arguments
  let found ← fallBackAll lookup found rule.options
  if found.operands.length < rule.least then throw .misuse
  pure found

end CommandRule

end ScriptOracle.CommandLine
