import Footprint.Proofs.Catalog.Lookup

/-!
# What a session says of itself and who its inquiries are made as

A session holds the names of the current database and role, and the viewer that was found for them
when one of the two was chosen last. `Session.Agrees` says that the two still go together: inquiries
are made as the current role on the current database.

The catalog is changed in the meantime, and no viewer is looked up then. So the agreement rests on
what changes of the catalog leave alone. The invariant is `Session.Coherent`: the current database
and role are there, and the viewer is the one that would be found for them now. An operation keeps
it unless it replaces the current database (`Session.Coherent.respond_perform`). One that does ends
the agreement, and it ends more: from then on the current database is not there, so that a role
which is chosen becomes current although choosing it fails.

As long as that does not happen, a choice fails only by what is to be chosen, and this is looked at
before anything is changed (`Session.Coherent.respond_choose`). In a catalog in which no number was
given twice it never happens (`Session.Run.spares`).
-/

namespace Footprint

open Catalog (Operation)

theorem Viewer.ofNames_eq_ok_iff {c : Catalog} {role : Option String} {database : String}
    {viewer : Viewer} : Viewer.ofNames c role database = .ok viewer ↔
      c.databaseOid database = .ok viewer.database ∧ role = some viewer.role ∧
        c.offers (.role viewer.role) = true := by
  obtain ⟨name, oid⟩ := viewer
  rw [Viewer.ofNames, Catalog.offers]
  cases hoid : c.databaseOid database with
  | error e => simp [bind, Except.bind]
  | ok found =>
    cases role with
    | none => simp [bind, Except.bind]
    | some role =>
      dsimp only [bind, Except.bind]
      split_ifs with hrole
      · simp only [pure, Except.pure, Except.ok.injEq, Viewer.mk.injEq, Option.some.injEq]
        constructor
        · rintro ⟨rfl, rfl⟩
          exact ⟨rfl, rfl, hrole⟩
        · rintro ⟨rfl, rfl, -⟩
          exact ⟨rfl, rfl⟩
      · constructor
        · intro h
          cases h
        · rintro ⟨-, hsame, hthere⟩
          obtain rfl := Option.some.inj hsame
          exact absurd hthere hrole

/-- The failure of a choice of what is not there. -/
def Choice.missing : Choice → Error
  | .database name => .databaseMissing name
  | .role name => .roleMissing name

namespace Session

variable {session start : Session}

/-! ### Requests -/

/-- What can be asked of a session. -/
inductive Request where
  | choose (choice : Choice)
  | shutDown
  | perform (op : Operation)
  deriving DecidableEq, Repr

/-- The result of a request, and the session after it. Documents can be written, as in a run of the
catalog. -/
def respond (session : Session) : Request → Except Error Unit × Session
  | .choose (.database name) => session.useDatabase name
  | .choose (.role name) => session.setRole name
  | .shutDown => (.ok (), session.shutDown)
  | .perform op =>
    let (result, store) := session.store.perform op
    (result, { session with store })

/-- The sessions that are reached by requests that are allowed, whether they succeed or fail. -/
inductive Run (allowed : Request → Session → Prop) (start : Session) : Session → Prop
  | start : Run allowed start start
  | respond {session : Session} (request : Request) (before : Run allowed start session)
      (hallowed : allowed request session) : Run allowed start (session.respond request).2

/-- Inquiries are made of the catalog of the session, and as its role on its database. -/
def Agrees (session : Session) : Prop :=
  ∀ inquiry, session.inquiry = .ok inquiry →
    inquiry.catalog = session.store.catalog ∧
    session.role = some inquiry.viewer.role ∧
    session.store.catalog.databaseOid session.database = .ok inquiry.viewer.database

/-- Leaves a request the current database in its place? -/
def Spares (request : Request) (session : Session) : Prop :=
  ∀ op oid, request = .perform op →
    session.store.catalog.databaseOid session.database = .ok oid →
      ¬op.ReplacesDatabase oid session.store.catalog

/-- Gives a request no number that is already that of an object of its kind? -/
def Fresh (request : Request) (session : Session) : Prop :=
  ∀ op, request = .perform op → op.Fresh session.store.catalog

theorem fresh_choose (choice : Choice) : Fresh (.choose choice) session := by
  intro op hop
  cases hop

/-- An operation that gives no number gives none twice. -/
theorem fresh_of_none {op : Operation} (h : op.oid = none) : Fresh (.perform op) session := by
  intro same hsame oid hoid
  obtain rfl := Request.perform.inj hsame
  rw [h] at hoid
  cases hoid

/-- Is a request anything but a choice that is made? -/
def ChoosesNothing (request : Request) (session : Session) : Prop :=
  ∀ choice, request = .choose choice → (session.respond request).1 ≠ .ok ()

/-- What is not there is refused before anything is changed. -/
theorem respond_choose (session : Session) (choice : Choice) :
    session.respond (.choose choice) =
      if session.store.catalog.offers choice then (session.moved choice).adopt
      else (.error choice.missing, session) := by
  cases choice with
  | database name =>
    rw [respond, useDatabase, Catalog.offers]
    cases session.store.catalog.findDatabase name <;> rfl
  | role name => rfl

theorem respond_choose_snd (session : Session) (choice : Choice) :
    (session.respond (.choose choice)).2 = session.choose choice := by
  cases choice <;> rfl

theorem respond_perform_snd (session : Session) (op : Operation) :
    (session.respond (.perform op)).2 = { session with store := (session.store.perform op).2 } :=
  rfl

theorem viewer_adopt_of_ne_ok (h : session.adopt.1 ≠ .ok ()) :
    session.adopt.2.viewer = session.viewer := by
  rw [adopt] at h ⊢
  cases hviewer : Viewer.ofNames session.store.catalog session.role session.database with
  | ok viewer =>
    rw [hviewer] at h
    exact absurd rfl h
  | error e => rfl

/-- **A session that is shut down stays so until something is chosen.** -/
theorem Run.viewer_eq_none (hrun : Run ChoosesNothing start session)
    (hstart : start.viewer = none) : session.viewer = none := by
  induction hrun with
  | start => exact hstart
  | @respond session request before hallowed ih =>
    cases request with
    | choose choice =>
      have hfails := hallowed choice rfl
      rw [respond_choose] at hfails ⊢
      split_ifs at hfails ⊢
      · have hmoved : (session.moved choice).viewer = session.viewer := by
          cases choice <;> rfl
        exact (viewer_adopt_of_ne_ok hfails).trans (hmoved.trans ih)
      · exact ih
    | shutDown => rfl
    | perform op => exact ih

/-! ### Agreement -/

/-- The current database and role are there, and the viewer is the one that is found for them. -/
structure Coherent (session : Session) : Prop extends session.Known where
  keyed : session.store.catalog.Keyed
  viewer : ∀ viewer, session.viewer = some viewer →
    Viewer.ofNames session.store.catalog session.role session.database = .ok viewer

namespace Coherent

/-- What is asked now is asked as the viewer that would be found now. -/
theorem agrees (h : session.Coherent) : session.Agrees := by
  intro asked hasked
  rw [Session.inquiry] at hasked
  cases hviewer : session.viewer with
  | none =>
    rw [hviewer] at hasked
    cases hasked
  | some viewer =>
    rw [hviewer] at hasked
    obtain rfl := Except.ok.inj hasked
    obtain ⟨hdatabase, hrole, -⟩ := Viewer.ofNames_eq_ok_iff.mp (h.viewer viewer hviewer)
    exact ⟨rfl, hrole, hdatabase⟩

theorem of_viewer {viewer : Viewer} (hkeyed : session.store.catalog.Keyed)
    (hfound : Viewer.ofNames session.store.catalog session.role session.database = .ok viewer)
    (hviewer : ∀ other, session.viewer = some other → other = viewer) : session.Coherent := by
  obtain ⟨hdatabase, hrole, hthere⟩ := Viewer.ofNames_eq_ok_iff.mp hfound
  obtain ⟨found, hsome, -⟩ := Catalog.databaseOid_eq_ok_iff.mp hdatabase
  exact {
    database := Option.isSome_iff_exists.mpr ⟨found, hsome⟩
    role := ⟨viewer.role, hrole, hthere⟩
    keyed := hkeyed
    viewer := fun other hother => hviewer other hother ▸ hfound }

/-- The viewer that is found can be made that of the session. -/
theorem adopted {viewer : Viewer} (hkeyed : session.store.catalog.Keyed)
    (hfound : Viewer.ofNames session.store.catalog session.role session.database = .ok viewer) :
    { session with viewer := some viewer }.Coherent :=
  of_viewer hkeyed hfound fun _ hother => (Option.some.inj hother).symm

/-- Whatever a session was before, it is coherent after a choice that is made. -/
theorem of_chosen {choice : Choice} {left : Session} (hkeyed : session.store.catalog.Keyed)
    (h : session.respond (.choose choice) = (.ok (), left)) : left.Coherent := by
  have hstore : (session.moved choice).store = session.store := by
    cases choice <;> rfl
  rw [Session.respond_choose] at h
  split_ifs at h
  · rw [adopt] at h
    cases hviewer : Viewer.ofNames (session.moved choice).store.catalog
        (session.moved choice).role (session.moved choice).database with
    | error e =>
      rw [hviewer] at h
      cases h
    | ok viewer =>
      rw [hviewer] at h
      obtain rfl := (Prod.mk.inj h).2
      exact adopted (hstore ▸ hkeyed) hviewer
  · cases h

/-- A session begins with a choice of its database. -/
theorem of_start {settings : Settings} {store : Store} (hkeyed : store.catalog.Keyed)
    (hstart : Session.start settings store = .ok session) : session.Coherent := by
  rw [Session.start] at hstart
  cases hname : settings.database with
  | none =>
    rw [hname] at hstart
    cases hstart
  | some name =>
    rw [hname] at hstart
    dsimp only at hstart
    let opened : Session := ⟨settings, store, name, settings.role, none⟩
    rcases hchosen : opened.useDatabase name with ⟨result, left⟩
    rw [hchosen] at hstart
    cases result with
    | error e => cases hstart
    | ok =>
      obtain rfl := Except.ok.inj hstart
      exact @of_chosen opened (.database name) left hkeyed hchosen

/-- A choice either is made, or it is refused and changes nothing. -/
theorem respond_choose (h : session.Coherent) (choice : Choice) :
    match session.respond (.choose choice) with
    | (.ok _, left) => left.Coherent ∧
        ∃ viewer, left = { session.moved choice with viewer := some viewer }
    | (.error e, left) => e = choice.missing ∧ left = session := by
  have hstore : (session.moved choice).store = session.store := by
    cases choice <;> rfl
  rw [Session.respond_choose]
  split_ifs with hoffers
  · obtain ⟨viewer, hviewer⟩ := (h.moved hoffers).exists_viewer
    rw [adopt, hviewer]
    exact ⟨adopted (hstore ▸ h.keyed) hviewer, viewer, rfl⟩
  · exact ⟨rfl, rfl⟩

/-- The current database and role are there after an operation that leaves the database in its
place, and they are who they were. -/
theorem respond_perform (h : session.Coherent) {op : Operation}
    (hspares : Spares (.perform op) session) : (session.respond (.perform op)).2.Coherent := by
  obtain ⟨viewer, hviewer⟩ := h.exists_viewer
  obtain ⟨hdatabase, hrole, hthere⟩ := Viewer.ofNames_eq_ok_iff.mp hviewer
  have hcatalog := session.store.perform_catalog op
  rw [respond_perform_snd]
  refine of_viewer ?_ (Viewer.ofNames_eq_ok_iff.mpr ⟨?_, hrole, ?_⟩) ?_
  · rw [hcatalog]
    exact h.keyed.effect (op.effect session.store.catalog)
  · rw [hcatalog]
    exact (h.keyed.databaseOid_on_iff op hdatabase).mpr (hspares op viewer.database rfl hdatabase)
  · rw [hcatalog]
    exact Catalog.offers_role_on op hthere
  · intro other hother
    exact Except.ok.inj ((h.viewer other hother).symm.trans hviewer)

theorem respond (h : session.Coherent) {request : Request} (hspares : Spares request session) :
    (session.respond request).2.Coherent := by
  cases request with
  | choose choice =>
    have hchoice := h.respond_choose choice
    rcases hrespond : session.respond (.choose choice) with ⟨_ | _, left⟩
    · rw [hrespond] at hchoice
      exact hchoice.2 ▸ h
    · rw [hrespond] at hchoice
      exact hchoice.1
  | shutDown => exact { h with viewer := nofun }
  | perform op => exact h.respond_perform hspares

/-- **An operation ends the agreement if and only if it replaces the current database.** -/
theorem agrees_perform_iff (h : session.Coherent) (op : Operation) {viewer : Viewer}
    (hviewer : session.viewer = some viewer) :
    (session.respond (.perform op)).2.Agrees ↔
      ¬op.ReplacesDatabase viewer.database session.store.catalog := by
  have hoid : session.store.catalog.databaseOid session.database = .ok viewer.database :=
    (Viewer.ofNames_eq_ok_iff.mp (h.viewer viewer hviewer)).1
  constructor
  · intro hagrees
    have hinquiry : (session.respond (.perform op)).2.inquiry =
        .ok ⟨(session.store.perform op).2.catalog, viewer, session.settings.versionDirectory⟩ := by
      rw [respond_perform_snd, Session.inquiry, hviewer]
    obtain ⟨-, -, hleft⟩ := hagrees _ hinquiry
    rw [respond_perform_snd, session.store.perform_catalog op] at hleft
    exact (h.keyed.databaseOid_on_iff op hoid).mp hleft
  · intro hspared
    refine (h.respond_perform fun same oid hsame hsame' => ?_).agrees
    obtain rfl := Request.perform.inj hsame
    obtain rfl := Except.ok.inj (hoid.symm.trans hsame')
    exact hspared

end Coherent

namespace Run

/-- As long as its current database is not replaced, a session stays coherent. -/
theorem coherent (hrun : Run Spares start session) (hstart : start.Coherent) :
    session.Coherent := by
  induction hrun with
  | start => exact hstart
  | respond request before hallowed ih => exact ih.respond hallowed

/-- In a catalog in which no number was given twice nothing is replaced. -/
theorem spares (hrun : Run Fresh start session) (hstart : start.store.catalog.Consistent) :
    session.store.catalog.Consistent ∧ Run Spares start session := by
  induction hrun with
  | start => exact ⟨hstart, .start⟩
  | @respond session request before hfresh ih =>
    obtain ⟨hconsistent, hrun⟩ := ih
    have hspares : Spares request session := by
      rintro op oid rfl hoid
      exact hconsistent.not_replacesDatabase (hfresh op rfl) hoid
    refine ⟨?_, hrun.respond request hspares⟩
    cases request with
    | choose choice =>
      have hstore : (session.respond (.choose choice)).2.store = session.store := by
        rw [respond_choose_snd, choose_store]
      rw [hstore]
      exact hconsistent
    | shutDown => exact hconsistent
    | perform op =>
      rw [respond_perform_snd, session.store.perform_catalog op]
      exact hconsistent.effect (hfresh op rfl) (op.effect session.store.catalog)

/-- **What a session says of itself and who its inquiries are made as go together.** Let a session
be opened on the catalog that was read, and let databases and roles be chosen, the session be shut
down and the catalog be changed, whether this succeeds or fails. As long as no new database is put
in the place of the current one, inquiries are made as the current role on the current database. A
choice that fails leaves everything as it is. After the session is shut down there are no inquiries
until a choice is made.

An operation that does put a new database in the place of the current one ends this. In a catalog in
which no number was given twice there is none. -/
theorem viewer_agrees {path : String} {document : Option String} {settings : Settings}
    {store : Store} (hload : Store.load path document = .ok store)
    (hstart : Session.start settings store = .ok start) (hrun : Run Spares start session) :
    session.Agrees ∧
      (∀ choice, match session.respond (.choose choice) with
        | (.ok _, left) => left.Agrees ∧
            ∃ viewer, left = { session.moved choice with viewer := some viewer }
        | (.error e, left) => e = choice.missing ∧ left = session) ∧
      (∀ later, Run ChoosesNothing session.shutDown later →
        later.inquiry = .error (.missingKey viewerKey)) ∧
      ∀ op viewer, session.viewer = some viewer →
        ((session.respond (.perform op)).2.Agrees ↔
          ¬op.ReplacesDatabase viewer.database session.store.catalog) := by
  have h : session.Coherent := hrun.coherent (.of_start (Store.load_keyed hload) hstart)
  refine ⟨h.agrees, fun choice => ?_, fun later hlater => ?_, fun op viewer hviewer => ?_⟩
  · have hchoice := h.respond_choose choice
    rcases hrespond : session.respond (.choose choice) with ⟨_ | _, left⟩
    · rw [hrespond] at hchoice
      exact hchoice
    · rw [hrespond] at hchoice
      exact ⟨hchoice.1.agrees, hchoice.2⟩
  · rw [Session.inquiry, hlater.viewer_eq_none rfl]
  · exact h.agrees_perform_iff op hviewer

/-- A new database becomes the current one, another one that is not there does not, and the session
is shut down. -/
theorem viewer_agrees_sales :
    let settings : Settings := {}
    let start : Session :=
      ⟨settings, .saved .bootstrap, "postgres", some "postgres", some ⟨"postgres", 5⟩⟩
    let made := (start.respond (.perform (.createDatabase "sales" none 1663))).2
    let chosen := (made.respond (.choose (.database "sales"))).2
    let missed := chosen.respond (.choose (.database "nowhere"))
    chosen.Agrees ∧ chosen.viewer = some ⟨"postgres", 16384⟩ ∧
      missed.1 = .error (.databaseMissing "nowhere") ∧ missed.2 = chosen ∧
      missed.2.shutDown.inquiry = .error (.missingKey viewerKey) := by
  intro settings start made chosen missed
  have hload : Store.load "catalog.json" none = .ok (.saved .bootstrap) := rfl
  have hstart : Session.start settings (.saved .bootstrap) = .ok start := rfl
  have hfresh : Fresh (.perform (.createDatabase "sales" none 1663)) start := fresh_of_none rfl
  have hmade : Run Fresh start made := @Run.respond Fresh start start _ .start hfresh
  have hchosen : Run Fresh start chosen := @Run.respond Fresh start made _ hmade (fresh_choose _)
  obtain ⟨-, hspares⟩ := hchosen.spares Catalog.bootstrap_consistent
  obtain ⟨hagrees, hchoice, hdown, -⟩ := viewer_agrees hload hstart hspares
  have hmissed : missed.2 = chosen := (hchoice (.database "nowhere")).2
  have hviewer : chosen.viewer = some ⟨"postgres", 16384⟩ := by decide
  have hfails : missed.1 = .error (.databaseMissing "nowhere") := by decide
  refine ⟨hagrees, hviewer, hfails, hmissed, ?_⟩
  rw [hmissed]
  exact hdown chosen.shutDown .start

end Run

/-- What a document may hold that does not say what the next number is: the number of a database is
the one that is given next. -/
def beforeFirst : Datum :=
  .record [
    ("databases", .list [.record [("oid", .int 16384), ("name", .text "postgres")]]),
    ("roles", .list [
      .record [("name", .text "postgres"), ("superuser", .bool true)],
      .record [("name", .text "alice")]])]

theorem beforeFirst_plain : beforeFirst.Plain := by
  have hdatabase : (Datum.record [("oid", .int 16384), ("name", .text "postgres")]).Plain := by
    refine .record (by simp) ?_
    simp only [List.forall_mem_cons]
    exact ⟨.int 16384, .text "postgres", nofun⟩
  have hpostgres :
      (Datum.record [("name", .text "postgres"), ("superuser", .bool true)]).Plain := by
    refine .record (by simp) ?_
    simp only [List.forall_mem_cons]
    exact ⟨.text "postgres", .bool true, nofun⟩
  have halice : (Datum.record [("name", .text "alice")]).Plain := by
    refine .record (by simp) ?_
    simp only [List.forall_mem_cons]
    exact ⟨.text "alice", nofun⟩
  refine .record (by simp) ?_
  simp only [List.forall_mem_cons]
  refine ⟨.list (List.forall_mem_singleton.mpr hdatabase), .list ?_, nofun⟩
  simp only [List.forall_mem_cons]
  exact ⟨hpostgres, halice, nofun⟩

/-- The catalog of that document. -/
def beforeFirstCatalog : Catalog where
  nextOid := Catalog.firstUserOid
  tablespaces := .empty
  databases := .ofValues Database.oid [{ oid := 16384, name := "postgres" }]
  relations := .empty
  roles := .ofValues Role.name [{ name := "postgres", superuser := true }, { name := "alice" }]

/-- The new database gets the number of the current one, and a role becomes current although the
choice of it fails. -/
theorem viewer_disagrees :
    ∃ store start, Store.load "catalog.json" (some (Json.render beforeFirst)) = .ok store ∧
      Session.start {} store = .ok start ∧
      let made := start.respond (.perform (.createDatabase "sales" none 1663))
      let left := made.2.respond (.choose (.role "alice"))
      made.1 = .ok () ∧ Run Fresh start made.2 ∧ ¬made.2.Agrees ∧
        made.2.role = some "postgres" ∧
        left.1 = .error (.notFound "database" "postgres") ∧ left.2.role = some "alice" ∧
        left.2.viewer = made.2.viewer := by
  let store : Store := ⟨beforeFirstCatalog, Json.render beforeFirst⟩
  let start : Session := ⟨{}, store, "postgres", some "postgres", some ⟨"postgres", 16384⟩⟩
  have hcatalog : Catalog.ofDatum "catalog.json" beforeFirst = .ok beforeFirstCatalog := by decide
  have hload : Store.load "catalog.json" (some (Json.render beforeFirst)) = .ok store := by
    rw [Store.load_render beforeFirst_plain (by decide), hcatalog]
    rfl
  refine ⟨store, start, hload, rfl, ?_⟩
  intro made left
  have hmade : made.1 = .ok () := by decide
  have hdisagrees : ¬made.2.Agrees := by
    intro hagrees
    obtain ⟨-, -, hdatabase⟩ := hagrees _ rfl
    revert hdatabase
    decide
  have hfresh : Fresh (.perform (.createDatabase "sales" none 1663)) start := fresh_of_none rfl
  have hrun : Run Fresh start made.2 := @Run.respond Fresh start start _ .start hfresh
  exact ⟨hmade, hrun, hdisagrees, rfl, by decide, by decide, by decide⟩

end Session

end Footprint
