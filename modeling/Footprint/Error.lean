/-!
# Errors

Every way in which a request can fail, by cause. What an error says is a message, to which some
causes add a detail and a hint; `Error.text` is all of it, as it is shown to the user. `category`
groups the errors of the domain; errors that come from malformed data or from a misuse of the
library have none.
-/

namespace Footprint

/-- What was being done with a path when the storage failed. -/
inductive StorageAction where
  | stat
  | openDirectory
  | readDirectory
  deriving DecidableEq, Repr

/-- The causes of failure. -/
inductive Error where
  -- Sizes and numbers.
  | sizeSyntax (text : String) (unit : Option String)
  | outOfRange
  | notNumeric (shown : String)
  | divisionByZero
  | divisionImpossible
  | wholeNumberExpected (kind : String)
  | booleanRefused
  | textExpected (kind : String)
  | unknownArithmetic (name : String)
  | noFurtherUnit
  | integerSyntax (shown : String)
  | integerTooLong (digits : Nat)
  -- Storage.
  | storage (action : StorageAction) (path : String) (reason : String)
  | unknownFork
  | forkNumber (number : Int)
  | sharedTemporary
  | temporaryWithoutOwner
  | canceled (reason : String)
  | interrupted
  -- Catalog.
  | notFound (kind name : String)
  | alreadyExists (kind name : String)
  | unsupportedKind (kind : String)
  | persistence (shown : String)
  | missingKey (shown : String)
  | misshapen (reason : String)
  | catalogCorrupted (path : String)
  | catalogNotARecord (path : String)
  | fileMissing (path : String)
  | fileIsDirectory (path : String)
  | fileNotDirectory (path : String)
  -- Access and sessions.
  | denied (kind name : String)
  | dataDirectoryMissing (path : String)
  | databaseMissing (name : String)
  | roleMissing (name : String)
  -- Configuration.
  | configurationMalformed (path : String)
  | configurationNotAMapping
  | configurationKeysUnknown (keys : List String)
  | configurationNotText (key : String)
  | unreadableValue (reason : String)
  | valueOutOfRange (reason : String)
  | nullText
  | unknownLevel (name : String)
  -- Command shell.
  | quotationOpen
  | escapeOpen
  | unopenedTag (tag : String) (position : Nat)
  | nothingToClose (position : Nat)
  deriving DecidableEq, Repr

/-- The groups of errors of the domain. -/
inductive ErrorCategory where
  | io
  | authorization
  | notFound
  | parse
  | overflow
  | canceled
  | config
  | invalidParameter
  deriving DecidableEq, Repr

/-- The name of a category. -/
def ErrorCategory.name : ErrorCategory → String
  | io => "io"
  | authorization => "authorization"
  | notFound => "not_found"
  | parse => "parse"
  | overflow => "overflow"
  | canceled => "canceled"
  | config => "config"
  | invalidParameter => "invalid_parameter"

/-- The action in the words of a message. -/
def StorageAction.words : StorageAction → String
  | stat => "stat file"
  | openDirectory => "open directory"
  | readDirectory => "read directory"

/-- The reason that a request is canceled for unless another is given. -/
def defaultCancelReason : String := "canceling statement due to user request"

/-- The names of the size units, for a hint. -/
def validUnitsHint : String :=
  "Valid units are \"bytes\", \"B\", \"kB\", \"MB\", \"GB\", \"TB\", and \"PB\"."

/-- The names of the forks, for a hint. -/
def validForksHint : String := "Valid fork names are \"main\", \"fsm\", \"vm\", \"init\"."

namespace Error

/-- The group of a domain error. -/
def category : Error → Option ErrorCategory
  | storage .. => some .io
  | denied .. => some .authorization
  | notFound .. => some .notFound
  | sizeSyntax .. => some .parse
  | outOfRange => some .overflow
  | canceled _ => some .canceled
  | catalogCorrupted _ | catalogNotARecord _ | configurationMalformed _ | configurationNotAMapping
  | configurationKeysUnknown _ | configurationNotText _ => some .config
  | unknownFork => some .invalidParameter
  | _ => none

/-- The first line of what an error says. -/
def message : Error → String
  | sizeSyntax text _ => s!"invalid size: \"{text}\""
  | outOfRange => "bigint out of range"
  | notNumeric shown => s!"invalid input syntax for type numeric: \"{shown}\""
  | divisionByZero => "division by zero"
  | divisionImpossible => "the quotient has more digits than the working precision"
  | wholeNumberExpected kind => s!"int64 backend requires an int, not {kind}"
  | booleanRefused => "numeric backend does not accept bool"
  | textExpected kind => s!"size must be a string, not {kind}"
  | unknownArithmetic name => s!"unknown numeric backend: {name}"
  | noFurtherUnit => "tuple index out of range"
  | integerSyntax shown => s!"invalid literal for int() with base 10: {shown}"
  | integerTooLong digits =>
    "Exceeds the limit (4300 digits) for integer string conversion: " ++
      s!"value has {digits} digits; use sys.set_int_max_str_digits() to increase the limit"
  | storage action path reason => s!"could not {action.words} \"{path}\": {reason}"
  | unknownFork => "invalid fork name"
  | forkNumber number => s!"{number} is not a valid ForkNumber"
  | sharedTemporary => "shared relations cannot be temporary"
  | temporaryWithoutOwner => "temporary relation without owning backend"
  | canceled reason => reason
  | interrupted => defaultCancelReason
  | notFound kind name => s!"{kind} \"{name}\" does not exist"
  | alreadyExists kind name => s!"{kind} \"{name}\" already exists"
  | unsupportedKind kind => s!"unsupported object type: {kind}"
  | persistence shown => s!"{shown} is not a valid Persistence"
  | missingKey shown => shown
  | misshapen reason => reason
  | catalogCorrupted path => s!"catalog file {path} is corrupted"
  | catalogNotARecord path => s!"catalog file {path} must contain a JSON object"
  | fileMissing path => s!"[Errno 2] No such file or directory: {path}"
  | fileIsDirectory path => s!"[Errno 21] Is a directory: {path}"
  | fileNotDirectory path => s!"[Errno 20] Not a directory: {path}"
  | denied kind name => s!"permission denied for {kind} {name}"
  | dataDirectoryMissing path => s!"数据目录 '{path}' 不存在。"
  | databaseMissing name => s!"数据库 '{name}' 不存在。"
  | roleMissing name => s!"角色 '{name}' 不存在。"
  | configurationMalformed path => s!"Malformed configuration file {path}"
  | configurationNotAMapping => "Configuration root must be a mapping."
  | configurationKeysUnknown keys => "Unknown configuration keys: " ++ ", ".intercalate keys
  | configurationNotText key => s!"Configuration key '{key}' must be a string."
  | unreadableValue reason => reason
  | valueOutOfRange reason => reason
  | nullText => "'NoneType' object has no attribute 'upper'"
  | unknownLevel name => s!"Level '{name}' does not exist"
  | quotationOpen => "No closing quotation"
  | escapeOpen => "No escaped character"
  | unopenedTag tag position =>
    s!"closing tag '[{tag}]' at position {position} doesn't match any open tag"
  | nothingToClose position => s!"closing tag '[/]' at position {position} has nothing to close"

/-- What an error adds about the case at hand. -/
def detail : Error → Option String
  | sizeSyntax _ (some unit) => some s!"Invalid size unit: \"{unit}\"."
  | _ => none

/-- What an error advises. -/
def hint : Error → Option String
  | sizeSyntax _ (some _) => some validUnitsHint
  | unknownFork => some validForksHint
  | _ => none

/-- All that an error says, a part to a line. -/
def text (e : Error) : String :=
  e.message ++ (e.detail.map ("\nDETAIL:  " ++ ·)).getD "" ++
    (e.hint.map ("\nHINT:  " ++ ·)).getD ""

end Error

end Footprint
