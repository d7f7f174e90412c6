import Footprint.Cancellation
import Footprint.Shell.Builtin
import Footprint.Shell.Command
import Footprint.Shell.Words
import Footprint.Text.FinalSigma

/-!
# The command shell

A line is split into words, the first of which names a command in any letter case. What the command
yields is shown as a table of one cell, and what goes wrong as a line of its own, after which the
shell goes on. Only what the console cannot print ends it.

Each command is carried out under a token of its own, by which an interrupt calls it off.
-/

namespace Footprint

/-- The state of the shell. -/
structure Shell where
  session : Session
  /-- The token of the command that is being carried out. -/
  token : Option Cancellation
  deriving DecidableEq, Repr

namespace Shell

/-- A shell in which nothing has been carried out yet. -/
def opened (session : Session) : Shell := ⟨session, none⟩

/-! ### Showing -/

/-- The marked text in front of what went wrong. -/
def errorLead : String := "[red]ERROR:[/red] "

/-- What went wrong, as it is printed. The text of an interrupt is known and not escaped. -/
def printError (console : Console) : Error → Except Error String
  | .interrupted => console.text (errorLead ++ Error.interrupted.text)
  | e => console.text (errorLead ++ console.escape e.text)

/-- The complaint about a name that is not that of a command. -/
def unknownCommand (name : String) : String :=
  s!"{errorLead}未知命令 '{name}'，输入 help 查看帮助。"

/-- The complaint about a number of arguments. -/
def wrongCount (command : Command) : String :=
  let name := command.name
  let fewest := command.fewest
  let most := command.most
  s!"{errorLead}命令 {name} 需要 {fewest}~{most} 个参数"

/-- What a command answers as a table. -/
def answerTable (command : Command) (shown : String) : Table where
  heading := [command.name]
  rows := [[shown]]

/-- The answer of a command, as it is printed. -/
def printAnswer (console : Console) (command : Command) (answer : Answer) :
    Except Error String := do
  console.table (answerTable command (← answer.shown))

/-- The name of the command that prints the overview. -/
def helpName : String := "help"

/-- The overview of the commands. -/
def helpTable : Table where
  title := some "支持的命令"
  heading := ["命令", "说明"]
  rows :=
    [["pretty <bytes>", "字节数 -> 可读字符串 (int64)"],
      ["pretty_numeric <number>", "字节数 -> 可读字符串 (任意精度)"],
      ["bytes <size>", "可读字符串 -> 字节数，例如 bytes '1.5 MB'"],
      ["database_size <name|oid>", "数据库在所有表空间中的大小"],
      ["tablespace_size <name|oid>", "表空间大小，目录不存在时为 NULL"],
      ["relation_size <rel> [fork]", "关系某个分叉的大小 (main/fsm/vm/init)"],
      ["table_size <rel>", "表 + toast，不含索引"],
      ["indexes_size <rel>", "表上所有索引"],
      ["total_size <rel>", "table_size + indexes_size"],
      ["filenode <rel>", "关系的文件编号"],
      ["filepath <rel>", "关系主分叉的相对路径"],
      ["filenode_relation <spc> <filenode>", "由文件编号反查关系"],
      ["use <database>", "切换当前数据库"],
      ["role <role>", "切换当前角色"],
      ["help / quit", "帮助 / 退出"]]

/-! ### Lines -/

/-- What a line yields: the answer, if there is one, and what is printed. -/
structure Reply where
  answer : Option Answer
  printed : String
  deriving DecidableEq, Repr

/-- A reply without an answer. -/
def Reply.silent (printed : String) : Reply := ⟨none, printed⟩

/-- The result of a line and what it did to the storage. -/
abbrev Outcome := Except Error Reply × Storage.Activity

/-- The result of a line, what it did to the storage, and the session after it. -/
abbrev Result := Outcome × Session

/-- An outcome that leaves everything as it was. -/
def idle (printed : Except Error String) (shell : Shell) : Outcome × Shell :=
  ((printed.map .silent, .none), shell)

/-- What a command looks at under the current token. It is called off from the start if the token is
canceled already, and not at all if there is none. -/
def heeded (shell : Shell) (view : Storage.View) : Storage.View :=
  match shell.token with
  | none => { view with watch := none }
  | some token =>
    match token.reason with
    | some reason => { view with watch := some ⟨0, reason⟩ }
    | none => view

/-- Carries out a command under a new token, which is put away before what comes of it is shown. -/
def runCommand (console : Console) (command : Command) (arguments : List String)
    (view : Storage.View) (shell : Shell) : Outcome × Shell :=
  let first := arguments.getD 0 ""
  let second := arguments.getD 1 Command.usualFork
  let entered := { shell with token := some .none }
  let ((result, activity), session) :=
    command.run first second (entered.heeded view) entered.session
  let left := { entered with session, token := none }
  let reply := match result with
    | .ok answer => (printAnswer console command answer).map fun s => ⟨some answer, s⟩
    | .error e => (printError console e).map .silent
  ((reply, activity), left)

/-- Carries out one line. -/
def process (console : Console) (line : String) (view : Storage.View) (shell : Shell) :
    Outcome × Shell :=
  match words line with
  | .error e => idle (printError console e) shell
  | .ok [] => idle (pure "") shell
  | .ok (word :: arguments) =>
    let name := Text.lowerWords word
    if name = helpName then idle (console.table helpTable) shell
    else
      match Command.ofName? name with
      | none => idle (console.text (unknownCommand name)) shell
      | some command =>
        if command.fewest ≤ arguments.length ∧ arguments.length ≤ command.most then
          runCommand console command arguments view shell
        else idle (console.text (wrongCount command)) shell

/-- Carries out one line in a shell that has just been opened, with the built-in console. -/
def runLine (line : String) (view : Storage.View) (session : Session) : Result :=
  let (outcome, shell) := (opened session).process .builtin line view
  (outcome, shell.session)

/-! ### Scripts -/

/-- A line of a script without the blanks around it, unless it is empty or a comment. -/
def scriptLine? (line : List Char) : Option String :=
  match Text.trimBlank line with
  | [] => none
  | '#' :: _ => none
  | text => some (String.ofList text)

/-- The lines of a script that are carried out. -/
def scriptLines (text : String) : List String :=
  (Text.splitLines text.toList).filterMap scriptLine?

/-- The view of a line after so many requests: the moment of an interrupt is counted from the start
of all lines, and one that has passed is forgotten. -/
def later (made : Nat) (view : Storage.View) : Storage.View :=
  { view with watch :=
      match view.watch with
      | none => none
      | some watch => if made < watch.moment then some { watch with moment := watch.moment - made }
        else none }

/-- Carries out lines one after the other. -/
def processAll (console : Console) (view : Storage.View) (shell : Shell) :
    List String → Outcome × Shell
  | [] => ((.ok (.silent ""), .none), shell)
  | line :: rest =>
    match shell.process console line view with
    | ((.error e, activity), shell) => ((.error e, activity), shell)
    | ((.ok reply, activity), shell) =>
      let ((result, more), shell) :=
        processAll console (later activity.calls.length view) shell rest
      ((result.map fun others => .silent (reply.printed ++ others.printed),
        ⟨activity.calls ++ more.calls, activity.warnings ++ more.warnings⟩), shell)

/-- Carries out a script in a shell that has just been opened, with the built-in console. -/
def runScript (text : String) (view : Storage.View) (session : Session) : Result :=
  let (outcome, shell) := processAll .builtin view (opened session) (scriptLines text)
  (outcome, shell.session)

end Shell

end Footprint
