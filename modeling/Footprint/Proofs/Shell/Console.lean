import Footprint.Proofs.Shell.Markup
import Footprint.Shell.Run

/-!
# What is assumed of a console

The shell can say little of what is printed, because that is up to the console. `Console.Lawful`
states what it relies on: an escaped text can be printed, a text without brackets can, and a text
with a tag that closes what is not open cannot. Nothing is said of the many texts in between, in
which tags are opened or closed again.

The built-in console is lawful (`Console.builtin_lawful`). That it prints a text is a matter of the
tags in it, which is what `Markup.shows_render` is about; what is left are the tags of the texts
that the laws speak of. They stand behind the marked text that leads a complaint, which closes what
it opens (`balanced_errorLead`).
-/

namespace Footprint.Shell

/-- Something can be printed. -/
def Prints (printing : Except Error String) : Prop := ∃ printed, printing = .ok printed

/-- The first bracket of a text is that of a closing tag, without a backslash in front of it: there
is nothing that it could close. -/
def ClosesFirst (text : String) : Prop :=
  ∃ before word after : List Char, text.toList = before ++ '[' :: '/' :: word ++ ']' :: after ∧
    '[' ∉ before ∧ before.getLast? ≠ some '\\' ∧ '[' ∉ word ∧ ']' ∉ word

/-- All texts of a table. -/
def Table.texts (table : Table) : List String :=
  table.title.toList ++ table.heading ++ table.rows.flatten

/-- What the shell relies on in a console. Complaints are printed behind a lead of their own. -/
structure Console.Lawful (console : Console) : Prop where
  /-- Whatever a text holds, it can be printed when it is escaped. -/
  escaped (text : String) : Prints (console.text (errorLead ++ console.escape text))
  /-- Where there is no bracket there is no tag. -/
  plain (text : String) (h : '[' ∉ text.toList) : Prints (console.text (errorLead ++ text))
  plain_table (table : Table) (h : ∀ text ∈ table.texts, '[' ∉ text.toList) :
    Prints (console.table table)
  /-- The overview of the commands holds a tag that is opened and not closed. -/
  help : Prints (console.table helpTable)
  /-- A tag that closes what is not open cannot be printed. -/
  closing (text : String) (h : ClosesFirst text) : ¬Prints (console.text (errorLead ++ text))
  closing_cell (table : Table) (row : List String) (text : String) (hrow : row ∈ table.rows)
    (htext : text ∈ row) (h : ClosesFirst text) : ¬Prints (console.table table)

/-- Text in front without a bracket changes nothing, unless it ends with a backslash. -/
theorem ClosesFirst.behind {text : String} (h : ClosesFirst text) {front : String} (after : String)
    (hopen : '[' ∉ front.toList) (hlast : front.toList.getLast? ≠ some '\\') :
    ClosesFirst (front ++ text ++ after) := by
  obtain ⟨before, word, rest, heq, hbefore, hslash, hword⟩ := h
  refine ⟨front.toList ++ before, word, rest ++ after.toList, ?_, ?_, ?_, hword⟩
  · simp [String.toList_append, heq]
  · simp [hopen, hbefore]
  · rw [List.getLast?_append]
    cases hend : before.getLast? with
    | none => simpa using hlast
    | some c =>
      rw [hend] at hslash
      simpa using hslash

/-! ### The built-in console -/

section Builtin

open Markup

/-- The marked text in front of a complaint closes what it opens. -/
theorem balanced_errorLead (text : String) : IsBalanced (errorLead ++ text) ↔ IsBalanced text := by
  let word := ['r', 'e', 'd']
  have hopen : IsInside word := ⟨⟨'r', _, rfl, rfl⟩, by decide, by decide⟩
  have hclose : IsInside ('/' :: word) := ⟨⟨'/', _, rfl, rfl⟩, by decide, by decide⟩
  have hlead : errorLead.toList =
      '[' :: word ++ ']' :: "ERROR:".toList ++ '[' :: '/' :: word ++ [']', ' '] := by decide
  -- The lead is a tag, a word, the tag that closes it, and a blank; then comes the text.
  have hscan : scan (errorLead ++ text).toList =
      .tag 0 word :: ("ERROR:".toList.map .char ++
        .tag 0 ('/' :: word) :: ([' '].map .char ++ scan text.toList)) := by
    have htext : (errorLead ++ text).toList = List.replicate 0 '\\' ++ '[' :: word ++
        ']' :: ("ERROR:".toList ++ (List.replicate 0 '\\' ++ '[' :: '/' :: word ++
          ']' :: ([' '] ++ text.toList))) := by
      rw [String.toList_append, hlead]
      simp
    rw [htext, scan_of_tag (readTag_append hopen), scan_append_left (by decide) (by decide),
      scan_of_tag (readTag_append hclose), scan_append_left (by decide) (by decide)]
  have hleave : leave [] (scan (errorLead ++ text).toList) = leave [] (scan text.toList) := by
    have hred : (Token.tag 0 word).leave [] = some [tagKey word] := by decide
    have hended : (Token.tag 0 ('/' :: word)).leave [tagKey word] = some [] := by decide
    rw [hscan, leave_cons, hred, Option.bind_some, leave_append, leave_chars, Option.bind_some,
      leave_cons, hended, Option.bind_some, leave_append, leave_chars, Option.bind_some]
  rw [IsBalanced, IsBalanced, hleave]

theorem builtin_text (marked : String) :
    Shows Unbalanced (IsBalanced marked) (Console.builtin.text marked) :=
  ((shows_render marked).bind fun _ => Shows.pure _).congr (and_iff_left trivial)

theorem builtin_table (table : Table) :
    Shows Unbalanced (∀ text ∈ table.texts, IsBalanced text) (Console.builtin.table table) := by
  obtain ⟨title, heading, rows⟩ := table
  have htitle : Shows Unbalanced (∀ text ∈ title.toList, IsBalanced text)
      (title.mapM Markup.render) := by
    cases title with
    | none => exact (Shows.pure none).congr (by simp)
    | some text => exact ((shows_render text).map some).congr (by simp)
  have hheading :
      Shows Unbalanced (∀ text ∈ heading, IsBalanced text) (heading.mapM Markup.render) :=
    Shows.mapM fun text _ => shows_render text
  have hrows : Shows Unbalanced (∀ row ∈ rows, ∀ text ∈ row, IsBalanced text)
      (rows.mapM fun row => row.mapM Markup.render) :=
    Shows.mapM fun row _ => Shows.mapM fun text _ => shows_render text
  refine ((htitle.bind fun _ => hheading.bind fun _ => hrows.bind fun _ =>
    Shows.pure _).map printedLines).congr ?_
  simp only [Table.texts, List.mem_append, List.mem_flatten, or_imp, forall_and, and_true]
  grind

/-- A text without brackets has no tags. -/
theorem balanced_of_not_mem {text : String} (h : '[' ∉ text.toList) : IsBalanced text :=
  balanced_of_not_infix fun hwithin => h (hwithin.subset List.mem_cons_self)

theorem ClosesFirst.not_balanced {text : String} (h : ClosesFirst text) : ¬IsBalanced text := by
  obtain ⟨before, word, after, heq, hbefore, hlast, hopen, hclose⟩ := h
  exact not_balanced_of_closing heq hbefore hlast hopen hclose

/-- **The built-in console is lawful.** -/
theorem Console.builtin_lawful : Console.builtin.Lawful where
  escaped text :=
    (builtin_text _).ok_iff.mpr ((balanced_errorLead _).mpr (balanced_escape text))
  plain text h :=
    (builtin_text _).ok_iff.mpr ((balanced_errorLead _).mpr (balanced_of_not_mem h))
  plain_table table h :=
    (builtin_table table).ok_iff.mpr fun text htext => balanced_of_not_mem (h text htext)
  help := by
    have htexts : ∀ text ∈ helpTable.texts, ¬['[', '/'] <:+: text.toList := by decide +kernel
    refine (builtin_table helpTable).ok_iff.mpr fun text htext => ?_
    exact balanced_of_not_infix (htexts text htext)
  closing text h hprints :=
    h.not_balanced ((balanced_errorLead text).mp ((builtin_text _).ok_iff.mp hprints))
  closing_cell table row text hrow htext h hprints := by
    have hmem : text ∈ table.texts :=
      List.mem_append_right _ (List.mem_flatten_of_mem hrow htext)
    exact h.not_balanced ((builtin_table table).ok_iff.mp hprints text hmem)

end Builtin

end Footprint.Shell
