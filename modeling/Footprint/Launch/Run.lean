import Footprint.Launch.Arguments
import Footprint.Settings.Load
import Footprint.Shell.Run
import Footprint.Workspace

/-!
# Running the program

The program opens the session that its settings describe and carries out the commands of its
arguments; without any it carries out its input as a script, or talks to the user if the input comes
from a terminal. What prevents it from starting, or cannot be printed, ends it. It prints with the
built-in console.
-/

namespace Footprint.Launch

/-- What the program finds when it starts. -/
structure Surroundings where
  workspace : Workspace
  /-- What the storage holds. -/
  tree : Storage.Tree
  environment : List (String × String)
  /-- What can be read from the standard input. -/
  input : String
  /-- Does the input come from a terminal? -/
  isTerminal : Bool

/-- How the program ends. -/
inductive Outcome where
  /-- It has not started, and ends with a status. -/
  | exit (status : Nat)
  /-- It has printed something, may have met an error that ended it, and leaves a workspace. -/
  | finished (printed : String) (fatal : Option Error) (workspace : Workspace)
  deriving Repr

/-- The status after a success. -/
def successStatus : Nat := 0

/-- The status after an error that ended the program. -/
def failureStatus : Nat := 1

/-- The status after arguments that make no sense. -/
def misuseStatus : Nat := 2

/-- What the program says about an error that ends it. -/
def fatalText (e : Error) : String := "❌ 系统启动或运行时发生致命错误: " ++ e.text

/-! ### Settings -/

/-- The known levels of logging. -/
def logLevels : List String :=
  ["TRACE", "DEBUG", "INFO", "SUCCESS", "WARNING", "ERROR", "CRITICAL"]

/-- Fails unless the level of logging is known, in any letter case. -/
def checkLogLevel : Option String → Except Error Unit
  | none => .error .nullText
  | some level =>
    let name := Text.upper level
    if logLevels.contains name then .ok () else .error (.unknownLevel name)

/-- The settings of the surroundings. A data directory among the arguments comes first. -/
def settings (plan : Plan) (s : Surroundings) : Except Error Settings := do
  let document ← s.workspace.configuration plan.config
  let loaded ← Settings.load (Workspace.shownPath plan.config) document s.environment
  match plan.dataDirectory.filter (!·.isEmpty) with
  | some directory => pure { loaded with dataDirectory := some directory }
  | none => pure loaded

/-- The session of the surroundings, and the workspace with its catalog. -/
def openSession (plan : Plan) (s : Surroundings) : Except Error Session × Workspace :=
  let found : Except Error Settings := do
    let settings ← settings plan s
    checkLogLevel settings.logLevel
    pure settings
  match found with
  | .error e => (.error e, s.workspace)
  | .ok settings => s.workspace.openSession settings

/-! ### Talking to the user -/

/-- What is printed before the first question. -/
def welcome : String :=
  "欢迎使用 dbsize 对象大小查询工具！\n输入 'quit' 退出，输入 'help' 查看帮助。\n" ++
    String.ofList (List.replicate 50 '=') ++ "\n"

/-- What is printed before each line of the user. -/
def prompt : String := "dbsize> "

/-- What is printed at the end. -/
def farewell : String := "再见！\n"

/-- The words that end the conversation. -/
def closingWords : List String := ["quit", "exit", "q"]

/-- Does a line end the conversation? -/
def isClosing (line : List Char) : Bool :=
  closingWords.contains (Text.lower (String.ofList (Text.trimBlank line)))

/-- The lines of an input, each up to a line feed. -/
def inputLines (input : String) : List (List Char) :=
  let lines := Shell.textLines input.toList
  if lines.getLast? = some [] then lines.dropLast else lines

/-- What comes of one line of the user. -/
inductive Turn where
  /-- Something is printed, and the next line is read. -/
  | next (printed : String) (shell : Shell)
  /-- Something is printed, and the conversation ends, perhaps with an error. -/
  | last (printed : String) (fatal : Option Error)

/-- Carries out a line of the user, or the end of them all. -/
def hear (view : Storage.View) (shell : Shell) : Option (List Char) → Turn
  | none => .last ("\n" ++ farewell) none
  | some line =>
    if isClosing line then .last farewell none
    else
      match shell.process .builtin (String.ofList line) view with
      | ((.error e, _), _) => .last "" (some e)
      | ((.ok reply, _), shell) => .next reply.printed shell

/-- What is printed while the lines of the user are carried out, and the error that ended it. -/
def converse (view : Storage.View) (shell : Shell) : List (List Char) → String × Option Error
  | [] =>
    match hear view shell none with
    | .next printed _ => (prompt ++ printed, none)
    | .last printed fatal => (prompt ++ printed, fatal)
  | line :: rest =>
    match hear view shell (some line) with
    | .last printed fatal => (prompt ++ printed, fatal)
    | .next printed shell =>
      let (more, fatal) := converse view shell rest
      (prompt ++ printed ++ more, fatal)

/-- What is printed while lines are carried out one after the other, and the error that ended it. -/
def perform (view : Storage.View) (shell : Shell) : List String → String × Option Error
  | [] => ("", none)
  | line :: rest =>
    match shell.process .builtin line view with
    | ((.error e, _), _) => ("", some e)
    | ((.ok reply, _), shell) =>
      let (printed, fatal) := perform view shell rest
      (reply.printed ++ printed, fatal)

/-! ### The program -/

/-- Carries out a plan in a session. -/
def follow (plan : Plan) (s : Surroundings) (session : Session) : String × Option Error :=
  let view := session.view s.tree none
  let shell := Shell.opened session
  if !plan.commands.isEmpty then perform view shell plan.commands
  else if s.isTerminal then
    let (printed, fatal) := converse view shell (inputLines s.input)
    (welcome ++ printed, fatal)
  else perform view shell (Shell.scriptLines s.input)

/-- Runs the program. -/
def run (arguments : List String) (s : Surroundings) : Outcome :=
  match Invocation.ofArguments arguments with
  | .misuse => .exit misuseStatus
  | .help => .exit successStatus
  | .plan plan =>
    match openSession plan s with
    | (.error e, workspace) => .finished "" (some e) workspace
    | (.ok session, workspace) =>
      let (printed, fatal) := follow plan s session
      .finished printed fatal workspace

/-- The status with which the program ends. -/
def Outcome.status : Outcome → Nat
  | exit status => status
  | finished _ none _ => successStatus
  | finished _ (some _) _ => failureStatus

end Footprint.Launch
