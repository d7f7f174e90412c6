import Footprint.Shell.Run

/-!
# What a line of the shell changes

A line changes nothing of the shell but the database or role that it chooses, if that is there
(`Shell.process_after`). Everything else is read from this equation. In particular, some lines one
after the other come down to the choices that are made in them (`Shell.after_eq`), so that lines in
which nothing is chosen can be left out or put in anywhere (`Shell.process_isolated`). The console
has no part in this: whether and how something is printed changes nothing of the shell.

Two things make the equation so short. A command that does not choose is an inquiry, and an inquiry
has no way to change the session (`Shell.run_session`). And a choice of what is not there is refused
before anything is changed (`Session.choose_eq`). There is a third case in between: if the other
half of the viewer is not there, a new database or role is current at the end of a command that
fails, and inquiries are made as before. It does not arise while the current database and role are
there (`Session.Known`), and then it never will (`Session.Known.choose`).

The token of a command is put away when the command ends, however it ends. So there is none between
lines, whatever was done to the session in the meantime (`Shell.Reached.token_eq`).
-/

namespace Footprint

open Storage (View)

/-! ### Choices -/

/-- What can be chosen to be current. -/
inductive Choice where
  | database (name : String)
  | role (name : String)
  deriving DecidableEq, Repr

/-- Is there what is to be chosen? -/
def Catalog.offers (c : Catalog) : Choice → Bool
  | .database name => (c.findDatabase name).isSome
  | .role name => c.roles.contains name

namespace Session

variable {session : Session} {choice : Choice}

/-- The session after a choice, whether it can be made or not. -/
def choose (session : Session) : Choice → Session
  | .database name => (session.useDatabase name).2
  | .role name => (session.setRole name).2

/-- The session with another current database or role, and the viewer of before. -/
def moved (session : Session) : Choice → Session
  | .database name => { session with database := name }
  | .role name => { session with role := some name }

/-- **What is not there is not chosen.** -/
theorem choose_eq (session : Session) (choice : Choice) : session.choose choice =
    if session.store.catalog.offers choice then (session.moved choice).adopt.2 else session := by
  cases choice with
  | database name =>
    rw [choose, useDatabase, Catalog.offers]
    cases session.store.catalog.findDatabase name <;> rfl
  | role name =>
    rw [choose, setRole, Catalog.offers]
    cases session.store.catalog.roles.contains name <;> rfl

/-- The catalog and its document are not what is chosen. -/
theorem choose_store (session : Session) (choice : Choice) :
    (session.choose choice).store = session.store := by
  have hmoved : (session.moved choice).store = session.store := by
    cases choice <;> rfl
  have hadopt : (session.moved choice).adopt.2.store = (session.moved choice).store := by
    rw [adopt]
    split <;> rfl
  rw [choose_eq]
  split
  · exact hadopt.trans hmoved
  · rfl

/-- The current database and role are there. -/
structure Known (session : Session) : Prop where
  database : session.store.catalog.offers (.database session.database) = true
  role : ∃ name, session.role = some name ∧ session.store.catalog.offers (.role name) = true

namespace Known

theorem exists_viewer (h : session.Known) :
    ∃ viewer, Viewer.ofNames session.store.catalog session.role session.database = .ok viewer := by
  obtain ⟨found, hfound⟩ := Option.isSome_iff_exists.mp h.database
  obtain ⟨name, hrole, hthere⟩ := h.role
  have hoid : session.store.catalog.databaseOid session.database = .ok found.oid := by
    rw [Catalog.databaseOid, hfound]
  refine ⟨⟨name, found.oid⟩, ?_⟩
  rw [Viewer.ofNames, hoid, hrole]
  exact if_pos hthere

theorem moved (h : session.Known) (hoffers : session.store.catalog.offers choice = true) :
    (session.moved choice).Known := by
  cases choice with
  | database name => exact ⟨hoffers, h.role⟩
  | role name => exact ⟨h.database, name, rfl, hoffers⟩

/-- **What is there is chosen, and nothing else changes.** -/
theorem choose (h : session.Known) (hoffers : session.store.catalog.offers choice = true) :
    ∃ viewer, Viewer.ofNames session.store.catalog (session.moved choice).role
        (session.moved choice).database = .ok viewer ∧
      session.choose choice = { session.moved choice with viewer := some viewer } := by
  obtain ⟨viewer, hviewer⟩ := (h.moved hoffers).exists_viewer
  have hstore : (session.moved choice).store = session.store := by
    cases choice <;> rfl
  refine ⟨viewer, hstore ▸ hviewer, ?_⟩
  rw [choose_eq, if_pos hoffers, adopt, hviewer]

end Known

end Session

namespace Shell

variable {shell : Shell}

/-! ### Lines -/

/-- The command that is carried out for a line, with its arguments. -/
def carried? (line : String) : Option (Command × List String) :=
  match words line with
  | .ok (word :: arguments) =>
    match Command.ofName? (Text.lowerWords word) with
    | some command =>
      if command.fewest ≤ arguments.length ∧ arguments.length ≤ command.most then
        some (command, arguments)
      else none
    | none => none
  | _ => none

/-- What a line asks to be chosen. -/
def asked? (line : String) : Option Choice :=
  match carried? line with
  | some (.use, arguments) => some (.database (arguments.getD 0 ""))
  | some (.role, arguments) => some (.role (arguments.getD 0 ""))
  | _ => none

/-- What a line chooses: it is asked for and there. -/
def choice? (c : Catalog) (line : String) : Option Choice := (asked? line).filter c.offers

/-- The name that asks for help is not that of a command. -/
theorem ofName?_helpName : Command.ofName? helpName = none := by decide

/-- A line without a command does nothing, and a command is carried out under a token that nobody
has canceled yet. -/
theorem process_snd (console : Console) (line : String) (view : View) (shell : Shell) :
    (shell.process console line view).2 = match carried? line with
      | none => shell
      | some (command, arguments) =>
        opened (command.run (arguments.getD 0 "") (arguments.getD 1 Command.usualFork) view
          shell.session).2 := by
  unfold process carried?
  cases words line with
  | error e => rfl
  | ok found =>
    cases found with
    | nil => rfl
    | cons word arguments =>
      dsimp only
      by_cases hhelp : Text.lowerWords word = helpName
      · rw [if_pos hhelp, hhelp, ofName?_helpName]
        rfl
      · rw [if_neg hhelp]
        cases Command.ofName? (Text.lowerWords word) with
        | none => rfl
        | some command =>
          dsimp only
          split <;> rfl

/-- An inquiry leaves the session as it is. -/
theorem run_session (command : Command) (first second : String) (view : View) (session : Session) :
    (command.run first second view session).2 = match command with
      | .use => session.choose (.database first)
      | .role => session.choose (.role first)
      | _ => session := by
  cases command <;> rfl

/-- **A line changes nothing but what it chooses.** -/
theorem process_after (h : shell.token = none) (console : Console) (line : String) (view : View) :
    (shell.process console line view).2 = match choice? shell.session.store.catalog line with
      | none => shell
      | some choice => opened (shell.session.choose choice) := by
  obtain ⟨session, token⟩ := shell
  obtain rfl : token = none := h
  -- What is asked for but not there leaves the session as it was.
  have hasked : ∀ choice : Choice, opened (session.choose choice) =
      match (some choice).filter session.store.catalog.offers with
      | none => opened session
      | some choice => opened (session.choose choice) := by
    intro choice
    by_cases hoffers : session.store.catalog.offers choice = true
    · rw [Option.filter_some, if_pos hoffers]
    · rw [Option.filter_some, if_neg hoffers, Session.choose_eq, if_neg hoffers]
  rw [process_snd, choice?, asked?]
  cases carried? line with
  | none => rfl
  | some carried =>
    obtain ⟨command, arguments⟩ := carried
    dsimp only
    rw [run_session]
    cases command with
    | use => exact hasked _
    | role => exact hasked _
    | _ => rfl

/-- What a line chooses is there. -/
theorem offers_of_choice? {c : Catalog} {line : String} {choice : Choice}
    (h : choice? c line = some choice) : c.offers choice = true :=
  (Option.filter_eq_some_iff.mp h).2

theorem process_token (h : shell.token = none) (console : Console) (line : String) (view : View) :
    (shell.process console line view).2.token = none := by
  rw [process_after h]
  split
  · exact h
  · rfl

/-- No line changes the catalog or its document. -/
theorem process_store (h : shell.token = none) (console : Console) (line : String) (view : View) :
    (shell.process console line view).2.session.store = shell.session.store := by
  rw [process_after h]
  split
  · rfl
  · exact Session.choose_store _ _

/-! ### Many lines -/

/-- The states of the shell between lines. Whatever is done to the session in the meantime, nothing
but a line touches the token. -/
inductive Reached : Shell → Prop
  | opened (session : Session) : Reached (opened session)
  | process {shell : Shell} (console : Console) (line : String) (view : View)
      (before : Reached shell) : Reached (shell.process console line view).2
  | manage {shell : Shell} (session : Session) (before : Reached shell) :
      Reached { shell with session }

/-- **Between lines there is no token.** -/
theorem Reached.token_eq (h : shell.Reached) : shell.token = none := by
  induction h with
  | opened session => rfl
  | process console line view before ih => exact process_token ih console line view
  | manage session before ih => exact ih

/-- The shell after some lines, each with what it finds, so that each can be interrupted at a moment
of its own. -/
def after (console : Console) (shell : Shell) (lines : List (String × View)) : Shell :=
  lines.foldl (fun shell (line, view) => (shell.process console line view).2) shell

/-- What some lines choose, in order. -/
def choices (c : Catalog) (lines : List (String × View)) : List Choice :=
  (lines.map Prod.fst).filterMap (choice? c)

/-- **Lines come down to the choices that are made in them.** -/
theorem after_eq (h : shell.token = none) (console : Console) (lines : List (String × View)) :
    shell.after console lines =
      opened ((choices shell.session.store.catalog lines).foldl Session.choose shell.session) := by
  induction lines generalizing shell with
  | nil =>
    obtain ⟨session, token⟩ := shell
    obtain rfl : token = none := h
    rfl
  | cons entry rest ih =>
    obtain ⟨line, view⟩ := entry
    -- The catalog stays the same, so that the other lines choose what they chose before.
    calc shell.after console ((line, view) :: rest)
        = (shell.process console line view).2.after console rest := rfl
      _ = opened ((choices shell.session.store.catalog rest).foldl Session.choose
            (shell.process console line view).2.session) := by
          rw [ih (process_token h console line view), process_store h]
      _ = _ := by
          rw [process_after h, choices, choices, List.map_cons, List.filterMap_cons]
          cases choice? shell.session.store.catalog line <;> rfl

/-- **Lines do not leak into each other.** Let the current database and role of the shell be there.
After any line, whether it is malformed, fails, is interrupted or succeeds, and whatever the console
makes of it, they still are, there is no token, and the catalog and its document are as before. So
is the session, unless the line chooses a database or a role that is there: then that is current,
and inquiries are made as the viewer that is found for it.

So what a line yields depends on the choices that were made before, and on no other line. -/
theorem process_isolated (console : Console) (hreached : shell.Reached)
    (hknown : shell.session.Known) :
    let session := shell.session
    let catalog := session.store.catalog
    (∀ (line : String) (view : View),
      let left := (shell.process console line view).2
      left.token = none ∧ left.session.store = session.store ∧ left.session.Known ∧
        match choice? catalog line with
        | none => left.session = session
        | some choice => ∃ viewer,
            Viewer.ofNames catalog (session.moved choice).role (session.moved choice).database =
              .ok viewer ∧
            left.session = { session.moved choice with viewer := some viewer }) ∧
    ∀ lines others : List (String × View), choices catalog lines = choices catalog others →
      ∀ (line : String) (view : View),
        (shell.after console lines).process console line view =
          (shell.after console others).process console line view := by
  intro session catalog
  have htoken := hreached.token_eq
  constructor
  · intro line view left
    refine ⟨process_token htoken console line view, process_store htoken console line view, ?_⟩
    have hleft := congrArg Shell.session (process_after htoken console line view)
    cases hchoice : choice? catalog line with
    | none =>
      rw [hchoice] at hleft
      exact ⟨hleft ▸ hknown, hleft⟩
    | some choice =>
      rw [hchoice] at hleft
      have hoffers := offers_of_choice? hchoice
      obtain ⟨viewer, hviewer, hchosen⟩ := hknown.choose hoffers
      have hmoved := hknown.moved hoffers
      have hsession := hleft.trans hchosen
      refine ⟨?_, viewer, hviewer, hsession⟩
      rw [hsession]
      exact ⟨hmoved.database, hmoved.role⟩
  · intro lines others hchoices line view
    rw [after_eq htoken, after_eq htoken, hchoices]

/-- A line that is malformed, one that chooses what is not there, one that is interrupted and one
that chooses a role. -/
theorem process_isolated_interrupted :
    let viewer : Viewer := { role := "postgres", database := 5 }
    let session : Session := ⟨{}, .saved .bootstrap, "postgres", some "postgres", some viewer⟩
    let shell := opened session
    let view : View := { tree := .empty, root := "data", watch := none }
    let interrupted : View := { view with watch := some ⟨1, defaultCancelReason⟩ }
    let role := "Role 'pg_read_all_stats'"
    let lines := [("bytes '1 MB", view), ("use nowhere", view), ("database_size 5", interrupted),
      (role, view)]
    (shell.process .builtin role view).2.session =
        { session with
          role := some "pg_read_all_stats", viewer := some ⟨"pg_read_all_stats", 5⟩ } ∧
      ∀ line, (shell.after .builtin lines).process .builtin line view =
        (shell.after .builtin [(role, view)]).process .builtin line view := by
  intro viewer session shell view interrupted role lines
  have hknown : session.Known := ⟨by decide, "postgres", rfl, by decide⟩
  obtain ⟨hlines, hsame⟩ := process_isolated .builtin (.opened session) hknown
  have hchoice : choice? (opened session).session.store.catalog role =
      some (.role "pg_read_all_stats") := by decide
  constructor
  · obtain ⟨-, -, -, hleft⟩ := hlines role view
    rw [hchoice] at hleft
    obtain ⟨found, hfound, hleft⟩ := hleft
    obtain rfl : ⟨"pg_read_all_stats", 5⟩ = found := Except.ok.inj hfound
    exact hleft
  · intro line
    exact hsame lines [(role, view)] (by decide) line view

end Shell

end Footprint
