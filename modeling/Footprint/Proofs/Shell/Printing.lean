import Footprint.Proofs.Shell.Console
import Footprint.Proofs.Shell.Frame

/-!
# Which lines are answered

Whatever goes wrong in a command is printed, and printing it cannot fail, because the text of an
error is escaped (`Shell.prints_printError`). The other texts of the shell itself hold no tag that
could be closed too early. Two texts of the user are left, and these are printed as they are: a name
that is not that of a command, and what a command answers, where names of databases, roles and
directories occur. `Shell.Exposes` lists them.

So a line is answered if and only if what it exposes can be printed, with any console that is lawful
(`Shell.process_answered_iff`). Such a text can be printed if it has no bracket, and it cannot if it
starts with a closing tag, so that a single word ends the shell (`Shell.process_closing_tag`).

A line exposes at most one text, and then this is what is printed of it
(`Shell.process_of_exposes`). The cases in which it exposes nothing are those of the complaints and
of the overview (`Shell.process_of_not_exposes`).
-/

namespace Footprint.Shell

open Storage (View)

/-! ### What a line exposes -/

/-- The name by which a line calls, if it is not that of a command. -/
def unknown? (line : String) : Option String :=
  match words line with
  | .ok (word :: _) =>
    let name := Text.lowerWords word
    if name = helpName ∨ (Command.ofName? name).isSome then none else some name
  | _ => none

/-- The texts that a line prints with all tags that are in them, each with what comes of printing
it. -/
inductive Exposes (console : Console) (line : String) (view : View) (shell : Shell) :
    Except Error String → Except Error String → Prop
  /-- A name that is not that of a command. -/
  | name {name : String} (hname : unknown? line = some name) :
      Exposes console line view shell (.ok name) (console.text (unknownCommand name))
  /-- What a command answers. -/
  | answer {command : Command} {arguments : List String} {answer : Answer}
      (hcarried : carried? line = some (command, arguments))
      (hanswer : (command.run (arguments.getD 0 "") (arguments.getD 1 Command.usualFork) view
        shell.session).1.1 = .ok answer) :
      Exposes console line view shell answer.shown (printAnswer console command answer)

variable {console : Console} {line : String} {view : View} {shell : Shell}

/-! ### What is printed -/

theorem prints_map {α : Type} {f : String → α} {printing : Except Error String} :
    (∃ a, printing.map f = .ok a) ↔ Prints printing := by
  cases printing with
  | error e => exact iff_of_false nofun nofun
  | ok printed => exact iff_of_true ⟨_, rfl⟩ ⟨printed, rfl⟩

/-- **What goes wrong can always be printed.** -/
theorem prints_printError (h : console.Lawful) (e : Error) : Prints (printError console e) := by
  unfold printError
  split
  · exact h.plain _ (by decide)
  · exact h.escaped e.text

theorem prints_wrongCount (h : console.Lawful) (command : Command) :
    Prints (console.text (wrongCount command)) := by
  have hlead : wrongCount command = errorLead ++
      s!"命令 {command.name} 需要 {command.fewest}~{command.most} 个参数" := by
    simp only [wrongCount, String.append_assoc]
    rfl
  rw [hlead]
  refine h.plain _ ?_
  cases command <;> decide +kernel

/-- A name is printed between two texts without brackets. -/
theorem unknownCommand_eq (name : String) : unknownCommand name =
    errorLead ++ ("未知命令 '" ++ name ++ "'，输入 help 查看帮助。") := by
  simp only [unknownCommand, String.append_assoc]
  rfl

theorem name_no_bracket (command : Command) : '[' ∉ command.name.toList := by
  cases command <;> decide +kernel

/-- Only a number can fail to be written. -/
theorem shown_error {answer : Answer} {e : Error} (h : answer.shown = .error e) :
    e = Text.numberTooLong := by
  cases answer with
  | null => cases h
  | text value => cases h
  | number value =>
    rw [Answer.shown] at h
    split at h
    · exact (Except.error.inj h).symm
    · cases h

theorem printAnswer_of_shown {command : Command} {answer : Answer} {text : String}
    (h : answer.shown = .ok text) :
    printAnswer console command answer = console.table (answerTable command text) := by
  rw [printAnswer, h]
  rfl

theorem printAnswer_of_error {command : Command} {answer : Answer} {e : Error}
    (h : answer.shown = .error e) : printAnswer console command answer = .error e := by
  rw [printAnswer, h]
  rfl

namespace Exposes

variable {shown printing : Except Error String} {text : String}

/-- What is exposed can be printed if it has no bracket. -/
theorem prints (h : Exposes console line view shell shown printing) (hlawful : console.Lawful)
    (hshown : shown = .ok text) (hplain : '[' ∉ text.toList) : Prints printing := by
  cases h with
  | name hname =>
    obtain rfl := Except.ok.inj hshown
    rw [unknownCommand_eq]
    refine hlawful.plain _ ?_
    rw [String.toList_append, String.toList_append]
    simp only [List.mem_append, hplain]
    decide
  | @answer command _ _ hcarried hanswer =>
    rw [printAnswer_of_shown hshown]
    refine hlawful.plain_table (answerTable command text) ?_
    simpa [Table.texts, answerTable] using ⟨name_no_bracket command, hplain⟩

/-- What is exposed cannot be printed if it starts with a closing tag. -/
theorem not_prints (h : Exposes console line view shell shown printing) (hlawful : console.Lawful)
    (hshown : shown = .ok text) (hcloses : ClosesFirst text) : ¬Prints printing := by
  cases h with
  | name hname =>
    obtain rfl := Except.ok.inj hshown
    rw [unknownCommand_eq]
    exact hlawful.closing _ (hcloses.behind _ (by decide) (by decide))
  | @answer command _ _ hcarried hanswer =>
    rw [printAnswer_of_shown hshown]
    exact hlawful.closing_cell (answerTable command text) [text] text
      List.mem_cons_self List.mem_cons_self hcloses

/-- What cannot be written is a number with too many digits. -/
theorem number (h : Exposes console line view shell shown printing) {e : Error}
    (hshown : shown = .error e) : e = Text.numberTooLong ∧ printing = .error e := by
  cases h with
  | name hname => cases hshown
  | answer hcarried hanswer => exact ⟨shown_error hshown, printAnswer_of_error hshown⟩

end Exposes

/-! ### What comes of a line -/

/-- The token that a command is carried out under changes nothing of what it finds. -/
theorem heeded_eq (view : View) (shell : Shell) :
    ({ shell with token := some .none } : Shell).heeded view = view := rfl

theorem runCommand_answer {command : Command} {arguments : List String} {answer : Answer}
    (h : (command.run (arguments.getD 0 "") (arguments.getD 1 Command.usualFork) view
      shell.session).1.1 = .ok answer) :
    (runCommand console command arguments view shell).1.1 =
      (printAnswer console command answer).map fun s => ⟨some answer, s⟩ := by
  rw [runCommand]
  dsimp only
  rw [heeded_eq, h]

theorem runCommand_error {command : Command} {arguments : List String} {e : Error}
    (h : (command.run (arguments.getD 0 "") (arguments.getD 1 Command.usualFork) view
      shell.session).1.1 = .error e) :
    (runCommand console command arguments view shell).1.1 =
      (printError console e).map .silent := by
  rw [runCommand]
  dsimp only
  rw [heeded_eq, h]

/-- **A line calls by an unknown name, has a command carried out, or is answered by something that
the shell itself says.** -/
theorem process_cases (hlawful : console.Lawful) (line : String) (view : View) (shell : Shell) :
    let outcome := (shell.process console line view).1.1
    (∃ name, unknown? line = some name ∧ carried? line = none ∧
        outcome = (console.text (unknownCommand name)).map .silent) ∨
      (∃ command arguments, unknown? line = none ∧ carried? line = some (command, arguments) ∧
        outcome = (runCommand console command arguments view shell).1.1) ∨
      unknown? line = none ∧ carried? line = none ∧ ∃ reply, outcome = .ok reply := by
  -- What the shell itself says can be printed.
  have hown {printing : Except Error String} (h : Prints printing) :
      ∃ reply, printing.map Reply.silent = .ok reply := prints_map.mpr h
  unfold process unknown? carried?
  cases words line with
  | error e => exact .inr (.inr ⟨rfl, rfl, hown (prints_printError hlawful e)⟩)
  | ok found =>
    cases found with
    | nil => exact .inr (.inr ⟨rfl, rfl, hown ⟨"", rfl⟩⟩)
    | cons word arguments =>
      dsimp only
      by_cases hhelp : Text.lowerWords word = helpName
      · rw [if_pos hhelp, if_pos (Or.inl hhelp), hhelp, ofName?_helpName]
        exact .inr (.inr ⟨rfl, rfl, hown hlawful.help⟩)
      · rw [if_neg hhelp]
        cases hcommand : Command.ofName? (Text.lowerWords word) with
        | none =>
          have hunknown : ¬(Text.lowerWords word = helpName ∨ (none : Option Command).isSome) := by
            simpa using hhelp
          exact .inl ⟨_, if_neg hunknown, rfl, rfl⟩
        | some command =>
          dsimp only
          rw [if_pos (Or.inr Option.isSome_some)]
          by_cases hcount : command.fewest ≤ arguments.length ∧ arguments.length ≤ command.most
          · rw [if_pos hcount, if_pos hcount]
            exact .inr (.inl ⟨command, arguments, rfl, rfl, rfl⟩)
          · rw [if_neg hcount, if_neg hcount]
            exact .inr (.inr ⟨rfl, rfl, hown (prints_wrongCount hlawful command)⟩)

/-- **What is exposed is what is printed.** -/
theorem process_of_exposes (hlawful : console.Lawful) {shown printing : Except Error String}
    (h : Exposes console line view shell shown printing) :
    ∃ reply, (shell.process console line view).1.1 = printing.map reply := by
  -- What is exposed tells which of the cases the line is, and the others are refuted by it.
  have hcases := process_cases hlawful line view shell
  cases h with
  | name hname =>
    simp only [hname, Option.some.injEq] at hcases
    obtain ⟨name', rfl, -, houtcome⟩ | ⟨_, _, hnone, -⟩ | ⟨hnone, -⟩ := hcases
    · exact ⟨_, houtcome⟩
    · cases hnone
    · cases hnone
  | answer hcarried hanswer =>
    simp only [hcarried, Option.some.injEq, Prod.mk.injEq] at hcases
    obtain ⟨_, -, hnone, -⟩ | ⟨_, _, -, ⟨rfl, rfl⟩, houtcome⟩ | ⟨-, hnone, -⟩ := hcases
    · cases hnone
    · exact ⟨_, houtcome.trans (runCommand_answer hanswer)⟩
    · cases hnone

/-- **A line that exposes nothing is answered.** -/
theorem process_of_not_exposes (hlawful : console.Lawful)
    (h : ∀ shown printing, ¬Exposes console line view shell shown printing) :
    ∃ reply, (shell.process console line view).1.1 = .ok reply := by
  obtain ⟨name, hname, -⟩ | ⟨command, arguments, -, hcarried, houtcome⟩ | ⟨-, -, hanswered⟩ :=
    process_cases hlawful line view shell
  · exact absurd (.name hname) (h _ _)
  · cases hresult : (command.run (arguments.getD 0 "") (arguments.getD 1 Command.usualFork) view
      shell.session).1.1 with
    | ok answer => exact absurd (.answer hcarried hresult) (h _ _)
    | error e =>
      rw [houtcome, runCommand_error hresult]
      exact prints_map.mpr (prints_printError hlawful e)
  · exact hanswered

/-- **A line is answered if and only if what it exposes can be printed.** Nothing but this ends the
shell: a line that cannot be split, a wrong number of arguments and a command that fails are all
answered by a complaint. What is exposed can be printed if it has no bracket, and it cannot if it
starts with a closing tag; a number with too many digits is not even written. -/
theorem process_answered_iff (hlawful : console.Lawful) (line : String) (view : View)
    (shell : Shell) :
    let outcome := (shell.process console line view).1.1
    ((∃ reply, outcome = .ok reply) ↔
        ∀ shown printing, Exposes console line view shell shown printing → Prints printing) ∧
      (∀ e, outcome = .error e → ∃ shown, Exposes console line view shell shown (.error e)) ∧
      ∀ shown printing, Exposes console line view shell shown printing →
        (∀ text, shown = .ok text → '[' ∉ text.toList → Prints printing) ∧
          (∀ text, shown = .ok text → ClosesFirst text → ¬Prints printing) ∧
          ∀ e, shown = .error e → e = Text.numberTooLong ∧ printing = .error e := by
  intro outcome
  refine ⟨⟨?_, fun hall => ?_⟩, fun e he => ?_, ?_⟩
  · rintro ⟨reply, hreply⟩ shown printing hexposes
    obtain ⟨f, hf⟩ := process_of_exposes hlawful hexposes
    exact prints_map.mp ⟨reply, hf.symm.trans hreply⟩
  · by_cases hexposes : ∃ shown printing, Exposes console line view shell shown printing
    · obtain ⟨shown, printing, hexposes⟩ := hexposes
      obtain ⟨f, hf⟩ := process_of_exposes hlawful hexposes
      obtain ⟨reply, hreply⟩ := prints_map.mpr (hall shown printing hexposes)
      exact ⟨reply, hf.trans hreply⟩
    · exact process_of_not_exposes hlawful (by simpa using hexposes)
  · by_cases hexposes : ∃ shown printing, Exposes console line view shell shown printing
    · obtain ⟨shown, printing, hexposes⟩ := hexposes
      obtain ⟨f, hf⟩ := process_of_exposes hlawful hexposes
      have hfailed : printing.map f = .error e := hf.symm.trans he
      -- The shell adds no error of its own to the one of the console.
      cases printing with
      | ok printed => cases hfailed
      | error e' =>
        obtain rfl : e' = e := Except.error.inj hfailed
        exact ⟨shown, hexposes⟩
    · obtain ⟨reply, hreply⟩ := process_of_not_exposes hlawful (by simpa using hexposes)
      cases hreply.symm.trans he
  · intro shown printing hexposes
    exact ⟨fun text => hexposes.prints hlawful, fun text => hexposes.not_prints hlawful,
      fun e => hexposes.number⟩

/-- The choice of a database whose name looks like a closing tag: what is answered says its name. -/
theorem process_answered_iff_named :
    let viewer : Viewer := { role := "postgres", database := 5 }
    let session : Session := ⟨{}, .saved .bootstrap, "postgres", some "postgres", some viewer⟩
    let named := (session.update (Catalog.createDatabase "[/x]" none 1663)).2
    let view : View := { tree := .empty, root := "data", watch := none }
    Console.builtin.Lawful ∧
      ¬∃ reply, ((opened named).process .builtin "use [/x]" view).1.1 = .ok reply := by
  intro viewer session named view
  have hexposes := @Exposes.answer .builtin "use [/x]" view (opened named) .use ["[/x]"]
    (.text "已切换到数据库 [/x]") (by decide) (by decide)
  have hcloses : ClosesFirst "已切换到数据库 [/x]" :=
    ⟨"已切换到数据库 ".toList, ['x'], [], by decide, by decide, by decide, by decide, by decide⟩
  obtain ⟨hanswered, -, hexposed⟩ :=
    process_answered_iff Console.builtin_lawful "use [/x]" view (opened named)
  refine ⟨Console.builtin_lawful, fun hreply => ?_⟩
  obtain ⟨-, hclosing, -⟩ := hexposed _ _ hexposes
  exact hclosing _ rfl hcloses (hanswered.mp hreply _ _ hexposes)

/-- A name that is no command and looks like a closing tag ends the shell. -/
theorem process_closing_tag :
    let viewer : Viewer := { role := "postgres", database := 5 }
    let session : Session := ⟨{}, .saved .bootstrap, "postgres", some "postgres", some viewer⟩
    let view : View := { tree := .empty, root := "data", watch := none }
    Console.builtin.Lawful ∧
      ((opened session).process .builtin "[/x]" view).1.1 = .error (.unopenedTag "/x" 24) :=
  ⟨Console.builtin_lawful, by decide +kernel⟩

end Footprint.Shell
