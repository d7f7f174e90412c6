import Footprint.Text.CharClass

/-!
# Arguments of the program

The program takes a configuration document, a data directory and commands to carry out, each as an
option with a value. The name of an option may be shortened as long as it is clear which one is
meant. The value follows the name as the next argument, behind an equals sign, or, after a short
name, directly. There are no other arguments.
-/

namespace Footprint.Launch

/-- The options. -/
inductive Flag where
  | help
  | config
  | dataDirectory
  | execute
  deriving DecidableEq, Repr

namespace Flag

/-- All options. -/
def all : List Flag := [help, config, dataDirectory, execute]

/-- The short name of an option. -/
def short : Flag → List Char
  | help => ['-', 'h']
  | config => ['-', 'c']
  | dataDirectory => ['-', 'D']
  | execute => ['-', 'e']

/-- The long name of an option. -/
def long : Flag → List Char
  | help => "--help".toList
  | config => "--config".toList
  | dataDirectory => "--data-dir".toList
  | execute => "--execute".toList

/-- The option of a full name. -/
def ofName? (name : List Char) : Option Flag :=
  all.find? fun flag => flag.short = name || flag.long = name

/-- The options whose long name begins like this. -/
def ofStart (name : List Char) : List Flag := all.filter fun flag => name.isPrefixOf flag.long

end Flag

/-- What an argument is by itself. -/
inductive Argument where
  /-- A value. -/
  | value (text : List Char)
  /-- The name of an option, perhaps with a value behind an equals sign. -/
  | flag (flag : Flag) (value : Option (List Char))
  /-- The short name of an option and what directly follows it. -/
  | joined (flag : Flag) (rest : List Char)
  /-- The sign after which there are values only. -/
  | separator
  /-- The name of no option. -/
  | unknown
  /-- A name that more than one option begins with. -/
  | ambiguous
  deriving DecidableEq, Repr

/-- A text before and after its first equals sign, if it has one. -/
def splitEquals (cs : List Char) : Option (List Char × List Char) :=
  match cs.dropWhile (· ≠ '=') with
  | [] => none
  | _ :: after => some (cs.takeWhile (· ≠ '='), after)

/-- Is this a negative number? -/
def isNegativeNumber : List Char → Bool
  | '-' :: rest =>
    match rest.dropWhile fun c => (Text.digitValue? c).isSome with
    | [] => !rest.isEmpty
    | '.' :: places => !places.isEmpty && places.all fun c => (Text.digitValue? c).isSome
    | _ => false
  | _ => false

/-- An argument that is not the full name of an option, although it begins like a name. -/
def readShortened (cs : List Char) : Argument :=
  let found : List Argument :=
    match cs with
    | '-' :: '-' :: _ =>
      let (name, value) := match splitEquals cs with
        | some (name, value) => (name, some value)
        | none => (cs, none)
      (Flag.ofStart name).map fun flag => .flag flag value
    | _ =>
      match Flag.ofName? (cs.take 2) with
      | some flag => [.joined flag (cs.drop 2)]
      | none => []
  match found with
  | [argument] => argument
  | _ :: _ => .ambiguous
  | [] => if isNegativeNumber cs || cs.contains ' ' then .value cs else .unknown

/-- What an argument is. -/
def Argument.read (text : String) : Argument :=
  let cs := text.toList
  match cs with
  | ['-', '-'] => separator
  | '-' :: _ :: _ =>
    match Flag.ofName? cs with
    | some found => flag found none
    | none =>
      match splitEquals cs with
      | none => readShortened cs
      | some (name, given) =>
        match Flag.ofName? name with
        | some found => flag found (some given)
        | none => readShortened cs
  | _ => value cs

/-- What is asked of the program. -/
structure Plan where
  config : String := "dbsize.yaml"
  dataDirectory : Option String := none
  commands : List String := []
  deriving DecidableEq, Repr

/-- What the arguments come to. -/
inductive Invocation where
  /-- The arguments make no sense. -/
  | misuse
  /-- The usage is asked for. -/
  | help
  | plan (plan : Plan)
  deriving DecidableEq, Repr

/-- The plan with the value of one more option. -/
def Plan.set (plan : Plan) (flag : Flag) (value : String) : Plan :=
  match flag with
  | .help => plan
  | .config => { plan with config := value }
  | .dataDirectory => { plan with dataDirectory := some value }
  | .execute => { plan with commands := plan.commands ++ [value] }

/-- What comes of further short names in one argument with that of the usage: the usage, unless they
cannot be read. A name of no option is not read on, and an option takes what is left as its value or
else the next argument. -/
def readAfterHelp (rest : List Argument) : List Char → Invocation
  | [] => .help
  | '-' :: _ => .misuse
  | name :: others =>
    match Flag.ofName? ['-', name] with
    | none => .help
    | some .help =>
      match others with
      | '=' :: _ => .misuse
      | _ => readAfterHelp rest others
    | some _ =>
      match others, rest with
      | _ :: _, _ => .help
      | [], .value _ :: _ => .help
      | [], _ => .misuse

/-- Reads the rest of the arguments. `strayed` says that one was found before that has no place. -/
def readArguments (strayed : Bool) (plan : Plan) : List Argument → Invocation
  | [] => if strayed then .misuse else .plan plan
  | .ambiguous :: _ => .misuse
  | .separator :: _ => .misuse
  | .value _ :: rest => readArguments true plan rest
  | .unknown :: rest => readArguments true plan rest
  | .flag .help none :: _ => .help
  | .flag .help (some _) :: _ => .misuse
  | .joined .help names :: rest => readAfterHelp rest names
  | .flag flag (some value) :: rest | .joined flag value :: rest =>
    readArguments strayed (plan.set flag (String.ofList value)) rest
  | .flag flag none :: .value value :: rest =>
    readArguments strayed (plan.set flag (String.ofList value)) rest
  | .flag _ none :: _ => .misuse

/-- What the arguments of the program come to. -/
def Invocation.ofArguments (arguments : List String) : Invocation :=
  let read := arguments.map Argument.read
  if (read.takeWhile (· ≠ .separator)).contains .ambiguous then .misuse
  else readArguments false {} read

end Footprint.Launch
