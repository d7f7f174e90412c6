import Footprint.Shell.Markup
import Mathlib.Data.List.Infix

/-!
# Which marked texts can be shown

A marked text can be shown unless one of its tags closes what is not open. `Markup.IsBalanced` says
this of the tags alone: read one after the other, they take the open tags from one state to the next
(`Markup.leave`), and it must never be stuck. That this is what showing fails on, and that it fails
on nothing else, is `Markup.shows_render`.

An escaped text is always balanced (`Markup.balanced_escape`). The reason is that escaping changes
nothing but the number of backslashes in front of a tag, which it makes odd: the tags of the escaped
text are those of the text, at the same places and with the same insides (`Markup.scan_escaped`). No
tag can come about in between, because what was no tag before is still cut off by the bracket of the
next one (`Markup.readTag_escaped`).

Text in front of a tag leaves it a tag unless it holds a bracket or ends with a backslash
(`Markup.scan_append_left`). So a text whose first bracket is that of a closing tag cannot be shown
(`Markup.not_balanced_of_closing`), and one in which no bracket is followed by a slash can
(`Markup.balanced_of_not_infix`).
-/

namespace Footprint.Shell

/-! ### Showing that may fail -/

namespace Markup

/-- What goes wrong if a tag closes what is not open. -/
inductive Unbalanced : Error → Prop
  | unopened (tag : String) (position : Nat) : Unbalanced (.unopenedTag tag position)
  | nothing (position : Nat) : Unbalanced (.nothingToClose position)

/-- Something is shown if and only if a condition holds, and otherwise fails in a certain way. -/
structure Shows (failure : Error → Prop) {α : Type} (condition : Prop) (result : Except Error α) :
    Prop where
  ok_iff : (∃ shown, result = .ok shown) ↔ condition
  failure : ∀ e, result = .error e → failure e

namespace Shows

variable {α β : Type} {failure : Error → Prop} {condition other : Prop} {result : Except Error α}

theorem pure (a : α) : Shows failure True (.ok a : Except Error α) :=
  ⟨iff_true_intro ⟨a, rfl⟩, nofun⟩

theorem error {e : Error} (h : failure e) : Shows failure False (.error e : Except Error α) := by
  refine ⟨iff_false_intro nofun, fun e' he' => ?_⟩
  rwa [← Except.error.inj he']

theorem congr (h : Shows failure condition result) (hiff : condition ↔ other) :
    Shows failure other result := ⟨h.ok_iff.trans hiff, h.failure⟩

theorem bind (h : Shows failure condition result) {next : α → Except Error β}
    (hnext : ∀ a, Shows failure other (next a)) :
    Shows failure (condition ∧ other) (result >>= next) := by
  cases result with
  | ok a =>
    have hcondition := h.ok_iff.mp ⟨a, rfl⟩
    exact (hnext a).congr (and_iff_right hcondition).symm
  | error e =>
    have hcondition : ¬condition := fun hc => nomatch h.ok_iff.mpr hc
    exact (Shows.error (h.failure e rfl)).congr (by simp [hcondition])

theorem map (h : Shows failure condition result) (f : α → β) :
    Shows failure condition (f <$> result) := by
  cases result with
  | ok a => exact (Shows.pure (f a)).congr (iff_of_true trivial (h.ok_iff.mp ⟨a, rfl⟩))
  | error e =>
    exact (Shows.error (h.failure e rfl)).congr
      (iff_of_false id fun hc => nomatch h.ok_iff.mpr hc)

/-- Several things are shown if each of them is. -/
theorem mapM {γ : Type} {f : γ → Except Error α} {p : γ → Prop} {xs : List γ}
    (h : ∀ x ∈ xs, Shows failure (p x) (f x)) : Shows failure (∀ x ∈ xs, p x) (xs.mapM f) := by
  induction xs with
  | nil => exact (Shows.pure []).congr (by simp)
  | cons x rest ih =>
    obtain ⟨hx, hrest⟩ := List.forall_mem_cons.mp h
    rw [List.mapM_cons]
    refine (hx.bind fun y => (ih hrest).bind fun ys => Shows.pure (y :: ys)).congr ?_
    simp

end Shows

/-! ### Balanced texts -/

/-- The open tags, innermost first, after a stretch, unless it closes what is not open. -/
def Token.leave (opened : List String) : Token → Option (List String)
  | char _ => some opened
  | tag slashes inside =>
    if slashes % 2 = 1 then some opened else (applyTag 0 inside opened).toOption

/-- The open tags after some stretches. -/
def leave (opened : List String) (tokens : List Token) : Option (List String) :=
  tokens.foldlM Token.leave opened

/-- In a balanced text nothing is closed that is not open. -/
def IsBalanced (text : String) : Prop := (leave [] (scan text.toList)).isSome = true

section Leave

variable {opened : List String} {position : Nat} {tokens : List Token}

@[simp] theorem leave_nil : leave opened [] = some opened := rfl

@[simp] theorem leave_cons (token : Token) :
    leave opened (token :: tokens) = (token.leave opened).bind (leave · tokens) := rfl

@[simp] theorem leave_char (c : Char) : (Token.char c).leave opened = some opened := rfl

theorem leave_append (others : List Token) :
    leave opened (tokens ++ others) = (leave opened tokens).bind (leave · others) :=
  List.foldlM_append

theorem leave_chars (cs : List Char) : leave opened (cs.map .char) = some opened := by
  induction cs with
  | nil => rfl
  | cons c rest ih => rw [List.map_cons, leave_cons, leave_char, Option.bind_some, ih]

/-- The position of a tag matters for nothing but the complaint. -/
theorem applyTag_cases (position : Nat) (inside : List Char) (opened : List String) :
    (∃ left, applyTag position inside opened = .ok left ∧
        (applyTag 0 inside opened).toOption = some left) ∨
      ∃ e, applyTag position inside opened = .error e ∧ Unbalanced e ∧
        (applyTag 0 inside opened).toOption = none := by
  unfold applyTag
  split
  · split
    · cases opened with
      | nil => exact .inr ⟨_, rfl, .nothing position, rfl⟩
      | cons _ others => exact .inl ⟨others, rfl, rfl⟩
    · dsimp only
      split
      · exact .inl ⟨_, rfl, rfl⟩
      · exact .inr ⟨_, rfl, .unopened _ position, rfl⟩
  · exact .inl ⟨_, rfl, rfl⟩

/-- **Showing fails where the tags are stuck, and nowhere else.** -/
theorem shows_tokens (position : Nat) (opened : List String) (tokens : List Token) :
    Shows Unbalanced ((leave opened tokens).isSome = true)
      (showTokens position opened tokens) := by
  fun_induction showTokens position opened tokens with
  | case1 position opened => exact (Shows.pure []).congr (by simp)
  | case2 position opened rest ih => exact ih.map _
  | case3 position opened c rest hnot ih => exact ih.map _
  | case4 position opened slashes inside rest next literal hodd ih =>
    rw [leave_cons, Token.leave, if_pos hodd]
    exact (ih.bind fun shown => Shows.pure _).congr (and_iff_left trivial)
  | case5 position opened slashes inside rest next literal hodd ih =>
    rw [leave_cons, Token.leave, if_neg hodd]
    rcases applyTag_cases (position + slashes) inside opened with
      ⟨left, hleft, hnone⟩ | ⟨e, he, hunbalanced, hnone⟩
    · rw [hleft, hnone]
      exact ((ih left).bind fun shown => Shows.pure _).congr (and_iff_left trivial)
    · rw [he, hnone]
      exact (Shows.error hunbalanced).congr (by simp)

/-- **A text is shown if and only if it is balanced.** -/
theorem shows_render (text : String) : Shows Unbalanced (IsBalanced text) (render text) :=
  (shows_tokens 0 [] (scan text.toList)).map _

end Leave

/-! ### Tags in a text -/

/-- The inside of a tag. -/
def IsInside (inside : List Char) : Prop :=
  (∃ c rest, inside = c :: rest ∧ startsTag c = true) ∧ '[' ∉ inside ∧ ']' ∉ inside

section Scan

variable {cs rest inside left : List Char} {c : Char} {slashes : Nat}

theorem readInside_append (hopen : '[' ∉ inside) (hclose : ']' ∉ inside) :
    readInside (inside ++ ']' :: left) = some (inside, left) := by
  induction inside with
  | nil => rfl
  | cons c rest ih =>
    rw [List.mem_cons, not_or] at hopen hclose
    rw [List.cons_append, readInside, if_neg (Ne.symm hclose.1), if_neg (Ne.symm hopen.1),
      ih hopen.2 hclose.2]
    rfl

theorem readInside_some (h : readInside cs = some (inside, left)) :
    cs = inside ++ ']' :: left ∧ '[' ∉ inside ∧ ']' ∉ inside := by
  fun_induction readInside cs generalizing inside left with
  | case1 => cases h
  | case2 rest =>
    obtain ⟨rfl, rfl⟩ := Prod.mk.inj (Option.some.inj h)
    exact ⟨rfl, List.not_mem_nil, List.not_mem_nil⟩
  | case3 rest => cases h
  | case4 c rest hclose hopen ih =>
    obtain ⟨⟨found, after⟩, hread, heq⟩ := Option.map_eq_some_iff.mp h
    obtain ⟨rfl, rfl⟩ := Prod.mk.inj heq
    obtain ⟨hcs, hno, hnc⟩ := ih hread
    refine ⟨by rw [hcs, List.cons_append], ?_, ?_⟩
    · exact List.not_mem_cons_of_ne_of_not_mem (Ne.symm hopen) hno
    · exact List.not_mem_cons_of_ne_of_not_mem (Ne.symm hclose) hnc

theorem readTag_append (h : IsInside inside) :
    readTag (List.replicate slashes '\\' ++ '[' :: inside ++ ']' :: left) =
      some (slashes, inside, left) := by
  obtain ⟨⟨c, rest, rfl, hstart⟩, hopen, hclose⟩ := h
  induction slashes with
  | zero =>
    have hread : readInside (rest ++ ']' :: left) = some (rest, left) :=
      readInside_append (List.not_mem_of_not_mem_cons hopen) (List.not_mem_of_not_mem_cons hclose)
    rw [List.replicate_zero, List.nil_append, List.cons_append, List.cons_append, readTag,
      if_pos hstart, hread]
    rfl
  | succ n ih =>
    rw [List.replicate_succ, List.cons_append, List.cons_append, readTag, ih]
    rfl

theorem readTag_some (h : readTag cs = some (slashes, inside, left)) :
    cs = List.replicate slashes '\\' ++ '[' :: inside ++ ']' :: left ∧ IsInside inside := by
  fun_induction readTag cs generalizing slashes inside left with
  | case1 rest ih =>
    obtain ⟨⟨n, found, after⟩, hread, heq⟩ := Option.map_eq_some_iff.mp h
    simp only [Prod.mk.injEq] at heq
    obtain ⟨rfl, rfl, rfl⟩ := heq
    obtain ⟨hcs, hinside⟩ := ih hread
    refine ⟨?_, hinside⟩
    rw [hcs, List.replicate_succ, List.cons_append, List.cons_append]
  | case2 c rest hstart =>
    obtain ⟨⟨found, after⟩, hread, heq⟩ := Option.map_eq_some_iff.mp h
    simp only [Prod.mk.injEq] at heq
    obtain ⟨rfl, rfl, rfl⟩ := heq
    obtain ⟨hcs, hopen, hclose⟩ := readInside_some hread
    have hne : c ≠ '[' ∧ c ≠ ']' := by
      constructor <;> rintro rfl <;> cases hstart
    refine ⟨by rw [hcs]; rfl, ⟨c, found, rfl, hstart⟩, ?_, ?_⟩
    · exact List.not_mem_cons_of_ne_of_not_mem hne.1.symm hopen
    · exact List.not_mem_cons_of_ne_of_not_mem hne.2.symm hclose
  | case3 => cases h
  | case4 => cases h

/-- A tag starts with a bracket, behind backslashes. -/
theorem readTag_of_ne (hslash : c ≠ '\\') (hopen : c ≠ '[') : readTag (c :: rest) = none := by
  unfold readTag
  split
  · next heq => exact absurd (List.cons.inj heq).1 hslash
  · next heq => exact absurd (List.cons.inj heq).1 hopen
  · rfl

theorem readTag_open_iff : readTag ('[' :: rest) = none ↔
    ∀ d more, rest = d :: more → startsTag d = true → readInside more = none := by
  cases rest with
  | nil => exact iff_of_true rfl nofun
  | cons d more =>
    rw [readTag]
    by_cases hstart : startsTag d = true
    · rw [if_pos hstart, Option.map_eq_none_iff]
      refine ⟨fun h d' more' heq _ => ?_, fun h => h d more rfl hstart⟩
      rwa [← (List.cons.inj heq).2]
    · rw [if_neg hstart]
      refine iff_of_true rfl fun d' more' heq hstart' => ?_
      rw [(List.cons.inj heq).1] at hstart
      exact absurd hstart' hstart

theorem scan_nil : scan [] = [] := by
  rw [scan]
  rfl

theorem scan_of_tag (h : readTag cs = some (slashes, inside, left)) :
    scan cs = .tag slashes inside :: scan left := by
  rw [scan]
  split
  · next found =>
    rw [h] at found
    obtain ⟨rfl, rfl, rfl⟩ := found
    rfl
  · next found => rw [h] at found; cases found

theorem scan_of_char (h : readTag (c :: rest) = none) :
    scan (c :: rest) = .char c :: scan rest := by
  rw [scan]
  split
  · next found => rw [h] at found; cases found
  · rfl

end Scan

/-! ### Escaped texts -/

/-- A stretch whose tag is text. -/
def Token.literal : Token → Token
  | char c => char c
  | tag slashes inside => tag (2 * slashes + 1) inside

/-- What a text is escaped to, but for a backslash at the end. -/
def escaped (cs : List Char) : List Char := (scan cs).flatMap Token.escaped

section Escaped

variable {cs rest tail : List Char} {c : Char}

theorem escaped_of_tag {slashes : Nat} {inside left : List Char}
    (h : readTag cs = some (slashes, inside, left)) :
    escaped cs =
      List.replicate (2 * slashes + 1) '\\' ++ '[' :: inside ++ ']' :: escaped left := by
  rw [escaped, scan_of_tag h, List.flatMap_cons, Token.escaped, ← escaped, List.append_assoc,
    List.append_assoc, List.append_assoc]
  rfl

theorem escaped_of_char (h : readTag (c :: rest) = none) :
    escaped (c :: rest) = c :: escaped rest := by
  rw [escaped, scan_of_char h]
  rfl

theorem readInside_backslashes (n : Nat) (h : readInside rest = none) :
    readInside (List.replicate n '\\' ++ rest) = none := by
  induction n with
  | zero => exact h
  | succ n ih =>
    rw [List.replicate_succ, List.cons_append, readInside, if_neg (by decide), if_neg (by decide),
      ih]
    rfl

theorem readTag_replicate (n : Nat) : readTag (List.replicate n '\\') = none := by
  induction n with
  | zero => rfl
  | succ n ih =>
    rw [List.replicate_succ, readTag, ih]
    rfl

/-- What is not the inside of a tag is not when it is escaped: it ends with the text, or with a
bracket that is still there. -/
theorem readInside_escaped (n : Nat) (h : readInside cs = none) :
    readInside (escaped cs ++ List.replicate n '\\') = none := by
  fun_induction scan cs with
  | case1 cs slashes inside left found ih =>
    rw [escaped_of_tag found, List.append_assoc, List.append_assoc]
    exact readInside_backslashes _ rfl
  | case2 found =>
    rw [escaped, scan_nil, List.flatMap_nil, List.nil_append]
    rw [← List.append_nil (List.replicate n '\\')]
    exact readInside_backslashes n rfl
  | case3 c rest found ih =>
    rw [escaped_of_char found, List.cons_append, readInside]
    rw [readInside] at h
    split_ifs at h ⊢ with hclose hopen
    · rfl
    · rw [ih (Option.map_eq_none_iff.mp h)]
      rfl

/-- **What is not a tag is not when it is escaped.** -/
theorem readTag_escaped (n : Nat) (h : readTag cs = none) :
    readTag (escaped cs ++ List.replicate n '\\') = none := by
  induction cs with
  | nil =>
    rw [escaped, scan_nil, List.flatMap_nil, List.nil_append]
    exact readTag_replicate n
  | cons c rest ih =>
    rw [escaped_of_char h, List.cons_append]
    by_cases hslash : c = '\\'
    · subst hslash
      rw [readTag] at h ⊢
      rw [ih (Option.map_eq_none_iff.mp h)]
      rfl
    · by_cases hopen : c = '['
      · subst hopen
        rw [readTag_open_iff] at h ⊢
        intro d more heq hstart
        -- No tag starts with a backslash, so the next character is one of the text.
        have hd : d ≠ '\\' := by
          rintro rfl
          cases hstart
        cases rest with
        | nil =>
          rw [escaped, scan_nil, List.flatMap_nil, List.nil_append] at heq
          exact absurd (List.eq_of_mem_replicate (heq ▸ List.mem_cons_self)) hd
        | cons e others =>
          rcases hread : readTag (e :: others) with _ | ⟨slashes, inside, left⟩
          · rw [escaped_of_char hread] at heq
            obtain ⟨rfl, rfl⟩ := List.cons.inj heq
            exact readInside_escaped n (h e others rfl hstart)
          · rw [escaped_of_tag hread] at heq
            exact absurd (List.cons.inj heq).1.symm hd
      · exact readTag_of_ne hslash hopen

/-- **An escaped text has the tags of the text, and all of them are text.** -/
theorem scan_escaped (cs : List Char) (n : Nat) :
    scan (escaped cs ++ List.replicate n '\\') =
      (scan cs).map Token.literal ++ List.replicate n (.char '\\') := by
  fun_induction scan cs with
  | case1 cs slashes inside left found ih =>
    obtain ⟨-, hinside⟩ := readTag_some found
    rw [escaped_of_tag found, List.append_assoc, List.cons_append,
      scan_of_tag (readTag_append hinside), ih]
    rfl
  | case2 found =>
    rw [escaped, scan_nil, List.flatMap_nil, List.nil_append, List.map_nil, List.nil_append]
    induction n with
    | zero => exact scan_nil
    | succ n ih =>
      have hnone := readTag_replicate (n + 1)
      rw [List.replicate_succ] at hnone ⊢
      rw [scan_of_char hnone, ih, List.replicate_succ]
  | case3 c rest found ih =>
    have hnone := readTag_escaped n found
    rw [escaped_of_char found, List.cons_append] at hnone ⊢
    rw [scan_of_char hnone, ih]
    rfl

theorem leave_literal (opened : List String) (tokens : List Token) :
    leave opened (tokens.map Token.literal) = some opened := by
  induction tokens with
  | nil => rfl
  | cons token rest ih =>
    have hstays : token.literal.leave opened = some opened := by
      cases token with
      | char c => rfl
      | tag slashes inside => exact if_pos (Nat.mul_add_mod 2 slashes 1)
    rw [List.map_cons, leave_cons, hstays, Option.bind_some, ih]

theorem exists_closeEscape (cs : List Char) :
    ∃ n, closeEscape cs = cs ++ List.replicate n '\\' := by
  unfold closeEscape
  split
  · exact ⟨0, (List.append_nil cs).symm⟩
  · exact ⟨1, rfl⟩
  · exact ⟨0, (List.append_nil cs).symm⟩

/-- **What is escaped can be shown.** -/
theorem balanced_escape (text : String) : IsBalanced (escape text) := by
  obtain ⟨n, hclose⟩ := exists_closeEscape (escaped text.toList)
  rw [IsBalanced, escape, String.toList_ofList, ← escaped, hclose, scan_escaped, leave_append,
    leave_literal, Option.bind_some, ← List.map_replicate, leave_chars]
  rfl

end Escaped

/-! ### Texts among others -/

section Append

variable {cs rest : List Char}

/-- What has no bracket, and no backslash at its end, is no part of a tag. -/
theorem readTag_append_left (hne : cs ≠ []) (hopen : '[' ∉ cs) (hlast : cs.getLast? ≠ some '\\') :
    readTag (cs ++ rest) = none := by
  induction cs with
  | nil => exact absurd rfl hne
  | cons c others ih =>
    rw [List.mem_cons, not_or] at hopen
    by_cases hslash : c = '\\'
    · subst hslash
      cases others with
      | nil => exact absurd rfl hlast
      | cons d more =>
        rw [List.getLast?_cons_cons] at hlast
        rw [List.cons_append, readTag, ih (List.cons_ne_nil d more) hopen.2 hlast]
        rfl
    · exact readTag_of_ne hslash (Ne.symm hopen.1)

/-- What precedes a text is no part of its tags if it has no bracket, and no backslash at its
end. -/
theorem scan_append_left (hopen : '[' ∉ cs) (hlast : cs.getLast? ≠ some '\\') :
    scan (cs ++ rest) = cs.map .char ++ scan rest := by
  induction cs with
  | nil => rfl
  | cons c others ih =>
    have hnone : readTag (c :: (others ++ rest)) = none :=
      readTag_append_left (List.cons_ne_nil c others) hopen hlast
    have hothers : others.getLast? ≠ some '\\' := by
      cases others with
      | nil => simp
      | cons d more => rwa [List.getLast?_cons_cons] at hlast
    rw [List.cons_append, scan_of_char hnone, ih (List.not_mem_of_not_mem_cons hopen) hothers]
    rfl

/-- Where nothing is open nothing can be closed. -/
theorem leave_closing (word : List Char) : (Token.tag 0 ('/' :: word)).leave [] = none := by
  have hname : tagName ('/' :: word) = '/' :: word.takeWhile (· ≠ '=') :=
    List.takeWhile_cons_of_pos (by decide)
  have hfails : ∃ e, applyTag 0 ('/' :: word) [] = .error e := by
    rw [applyTag, hname]
    split
    · split
      · exact ⟨_, rfl⟩
      · exact ⟨_, if_neg List.not_mem_nil⟩
    · next hname => exact absurd rfl (hname _)
  obtain ⟨e, he⟩ := hfails
  rw [Token.leave, if_neg (by decide), he]
  rfl

/-- A text is not balanced if its first bracket is that of a closing tag. -/
theorem not_balanced_of_closing {text : String} {word after : List Char}
    (htext : text.toList = cs ++ '[' :: '/' :: word ++ ']' :: after) (hopen : '[' ∉ cs)
    (hlast : cs.getLast? ≠ some '\\') (hword : '[' ∉ word) (hend : ']' ∉ word) :
    ¬IsBalanced text := by
  have hinside : IsInside ('/' :: word) :=
    ⟨⟨'/', word, rfl, rfl⟩, by simpa using hword, by simpa using hend⟩
  -- Before the tag there are characters only, so that nothing is open when it comes.
  have htag : readTag (List.replicate 0 '\\' ++ '[' :: '/' :: word ++ ']' :: after) =
      some (0, '/' :: word, after) := readTag_append hinside
  rw [List.replicate_zero, List.nil_append] at htag
  rw [IsBalanced, htext, List.append_assoc, scan_append_left hopen hlast, scan_of_tag htag,
    leave_append, leave_chars, Option.bind_some, leave_cons, leave_closing]
  simp

/-- A tag that does not start with a slash opens something. -/
theorem exists_leave_tag {c : Char} (hc : c ≠ '/') (slashes : Nat) (opened : List String) :
    ∃ left, (Token.tag slashes (c :: rest)).leave opened = some left := by
  rw [Token.leave]
  split_ifs with hodd
  · exact ⟨opened, rfl⟩
  · unfold applyTag
    split
    · next name heq =>
      -- The name of a closing tag starts with a slash, and it is the start of the tag.
      rw [tagName, List.takeWhile_cons] at heq
      split at heq
      · exact absurd (List.cons.inj heq).1 hc
      · cases heq
    · exact ⟨_, rfl⟩

/-- A text in which no bracket is followed by a slash closes nothing. -/
theorem leave_of_not_infix (h : ¬['[', '/'] <:+: cs) (opened : List String) :
    (leave opened (scan cs)).isSome = true := by
  fun_induction scan cs generalizing opened with
  | case1 cs slashes inside left found ih =>
    obtain ⟨rfl, ⟨c, others, rfl, -⟩, -, -⟩ := readTag_some found
    -- Neither the tag nor what is left may hold what the text does not hold.
    have hc : c ≠ '/' := by
      rintro rfl
      exact h ⟨List.replicate slashes '\\', others ++ ']' :: left, by simp⟩
    have hleft : ¬['[', '/'] <:+: left := by
      rintro ⟨before, after, rfl⟩
      exact h ⟨List.replicate slashes '\\' ++ '[' :: c :: others ++ ']' :: before, after, by simp⟩
    obtain ⟨opened', hopened⟩ := exists_leave_tag hc slashes opened
    rw [leave_cons, hopened, Option.bind_some]
    exact ih hleft opened'
  | case2 found => rfl
  | case3 c rest found ih =>
    exact ih (fun hinner => h (hinner.trans (List.suffix_cons c rest).isInfix)) opened

theorem balanced_of_not_infix {text : String} (h : ¬['[', '/'] <:+: text.toList) :
    IsBalanced text := leave_of_not_infix h []

end Append

end Markup

end Footprint.Shell
