import Footprint.Session
import Footprint.Size.Parser
import Footprint.Size.Pretty

/-!
# Commands

The commands of the shell: conversions of sizes, inquiries about what is stored, and the choice of
the current database and role. A command has a name and a number of arguments; what these mean is
read when it is carried out, after it is known that there is something to inquire of.
-/

namespace Footprint.Shell

open Storage (Scan)

/-- What a command can yield. -/
inductive Answer where
  | null
  | number (value : Int)
  | text (value : String)
  deriving DecidableEq, Repr

namespace Answer

/-- How a missing value is shown. -/
def nullText : String := "NULL"

/-- An answer as it is shown, unless it is a number with too many digits. -/
def shown : Answer → Except Error String
  | null => .ok nullText
  | number value =>
    if Text.digitLimit < (Nat.toDigits 10 value.natAbs).length then
      .error Text.numberTooLong
    else .ok (toString value)
  | text value => .ok value

/-- A size that may be missing. -/
def ofSize : Option Nat → Answer
  | none => null
  | some n => number n

/-- A number that may be missing. -/
def ofNumber : Option Int → Answer
  | none => null
  | some n => number n

/-- A text that may be missing. -/
def ofText : Option String → Answer
  | none => null
  | some s => text s

end Answer

/-- The commands. -/
inductive Command where
  | pretty
  | prettyNumeric
  | bytes
  | databaseSize
  | tablespaceSize
  | relationSize
  | tableSize
  | indexesSize
  | totalSize
  | fileNumber
  | filePath
  | relationOfFile
  | use
  | role
  deriving DecidableEq, Repr

namespace Command

/-- All commands. -/
def all : List Command :=
  [pretty, prettyNumeric, bytes, databaseSize, tablespaceSize, relationSize, tableSize,
    indexesSize, totalSize, fileNumber, filePath, relationOfFile, use, role]

/-- The name of a command. -/
def name : Command → String
  | pretty => "pretty"
  | prettyNumeric => "pretty_numeric"
  | bytes => "bytes"
  | databaseSize => "database_size"
  | tablespaceSize => "tablespace_size"
  | relationSize => "relation_size"
  | tableSize => "table_size"
  | indexesSize => "indexes_size"
  | totalSize => "total_size"
  | fileNumber => "filenode"
  | filePath => "filepath"
  | relationOfFile => "filenode_relation"
  | use => "use"
  | role => "role"

/-- The command of a name. -/
def ofName? (text : String) : Option Command := all.find? fun command => command.name = text

/-- The fewest arguments of a command. -/
def fewest : Command → Nat
  | relationOfFile => 2
  | _ => 1

/-- The most arguments of a command. -/
def most : Command → Nat
  | relationSize | relationOfFile => 2
  | _ => 1

/-- The fork that is measured unless another one is named. -/
def usualFork : String := Storage.Fork.main.name

/-- The message of a database that has been chosen. -/
def databaseChosen (name : String) : String := s!"已切换到数据库 {name}"

/-- The message of a role that has been chosen. -/
def roleChosen (name : String) : String := s!"当前角色 {name}"

/-- A result as a scan that asks the storage nothing. -/
def answered {α : Type} (encode : α → Answer) (result : Except Error α) : Scan Answer :=
  Scan.ofExcept (result.map encode)

/-- An inquiry about what a text refers to. -/
def referring {α : Type} (session : Session) (text : String) (encode : α → Answer)
    (request : Inquiry → Reference → Scan α) : Scan Answer :=
  session.ask fun inquiry => do
    let reference ← Scan.ofExcept (Reference.ofText text)
    encode <$> request inquiry reference

/-- The inquiry that a command makes. The commands that choose something make none. -/
def inquire (session : Session) (command : Command) (first second : String) : Scan Answer :=
  match command with
  | pretty =>
    answered .text (Text.wholeNumber first >>= fun n => NumberSystem.int64.pretty (.int n))
  | prettyNumeric => answered .text (NumberSystem.numeric.pretty (.text first))
  | bytes => answered .number (Size.parse first)
  | databaseSize =>
    referring session first (fun n : Nat => .number n) Inquiry.databaseSize
  | tablespaceSize => referring session first .ofSize Inquiry.tablespaceSize
  | relationSize => referring session first .ofSize fun inquiry => inquiry.relationSize second
  | tableSize => referring session first .ofSize fun inquiry => inquiry.measured inquiry.tableSize
  | indexesSize =>
    referring session first .ofSize fun inquiry => inquiry.measured inquiry.indexesSize
  | totalSize => referring session first .ofSize fun inquiry => inquiry.measured inquiry.totalSize
  | fileNumber =>
    referring session first .ofNumber fun inquiry reference =>
      Scan.ofExcept (inquiry.fileNumber reference)
  | filePath =>
    referring session first .ofText fun inquiry reference =>
      Scan.ofExcept (inquiry.filePath reference)
  | relationOfFile =>
    session.ask fun inquiry =>
      answered .ofNumber do
        inquiry.relationOfFile (← Text.wholeNumber first) (← Text.wholeNumber second)
  | use | role => pure .null

/-- Carries out a command with its arguments. -/
def run (command : Command) (first second : String) (view : Storage.View) (session : Session) :
    (Except Error Answer × Storage.Activity) × Session :=
  match command with
  | use =>
    let (result, session) := session.useDatabase first
    ((result.map fun _ => .text (databaseChosen first), .none), session)
  | role =>
    let (result, session) := session.setRole first
    ((result.map fun _ => .text (roleChosen first), .none), session)
  | _ => ((command.inquire session first second).start view, session)

end Command

end Footprint.Shell
