import Footprint.Proofs.Catalog.Run
import Footprint.Proofs.Storage.Scan
import Footprint.Proofs.Text.Digits
import Footprint.Shell.Command

/-!
# References in commands

A text that refers to an object is taken for a number if nothing but digits is in it, and the test
for this is wider than the reader of numbers. Decimal digits that are not too many are read
(`Text.IsNumeral`). A text with a digit sign in it, or with too many digits, passes the test and is
then refused by the reader (`Text.IsUnreadable`); it is neither a number nor a name. Every other
text is a name.

A command that takes a reference depends on the text in no other way (`Command.run_eq_ask`). So it
makes its inquiry about the number or the name, or ends with the complaint of the reader before
anything is asked of the storage.
-/

namespace Footprint

open Storage (Scan View Activity)

variable {text : String}

/-! ### Three kinds of texts -/

namespace Text

/-- A text of decimal digits that are not too many for a number. -/
def IsNumeral (text : String) : Prop :=
  text ≠ "" ∧ (∀ c ∈ text.toList, isDecimal c = true) ∧ text.toList.length ≤ digitLimit

/-- A text of digits and digit signs that is no number: there is a sign in it, or there are too many
digits. -/
def IsUnreadable (text : String) : Prop :=
  text ≠ "" ∧ (∀ c ∈ text.toList, isDigitLike c = true) ∧
    ((∃ c ∈ text.toList, inRanges digitSignRanges c = true) ∨ digitLimit < text.toList.length)

/-- The complaint about such a text. Only the digits in front of the first sign are counted. -/
def unreadable (text : String) : Error :=
  let leading := (text.toList.takeWhile isDecimal).length
  if digitLimit < leading then .integerTooLong leading else notWhole text

/-- What is like a digit is a decimal digit or a digit sign. -/
theorem isDigitLike_iff {c : Char} : isDigitLike c = true ↔
    isDecimal c = true ∨ inRanges digitSignRanges c = true := Bool.or_eq_true_iff

/-- **A text that is like a number is one, or cannot be read.** -/
theorem isNumeral_or_isUnreadable (hne : text ≠ "")
    (h : ∀ c ∈ text.toList, isDigitLike c = true) : IsNumeral text ∨ IsUnreadable text := by
  by_cases hlong : digitLimit < text.toList.length
  · exact Or.inr ⟨hne, h, Or.inr hlong⟩
  · by_cases hsign : ∃ c ∈ text.toList, inRanges digitSignRanges c = true
    · exact Or.inr ⟨hne, h, Or.inl hsign⟩
    · refine Or.inl ⟨hne, fun c hc => ?_, not_lt.mp hlong⟩
      exact (isDigitLike_iff.mp (h c hc)).resolve_right fun hc' => hsign ⟨c, hc, hc'⟩

theorem IsNumeral.digitLike (h : IsNumeral text) : ∀ c ∈ text.toList, isDigitLike c = true :=
  fun c hc => isDigitLike_iff.mpr (Or.inl (h.2.1 c hc))

theorem wholeNumber_numeral (h : IsNumeral text) :
    wholeNumber text = .ok (numeralValue text) := by
  have hlike := h.digitLike
  obtain ⟨hne, hdigits, hfits⟩ := h
  rw [wholeNumber_of_digitLike hne hlike, List.takeWhile_eq_self_iff.mpr hdigits,
    if_neg (not_lt.mpr hfits), if_pos (List.all_eq_true.mpr hdigits)]

theorem wholeNumber_unreadable (h : IsUnreadable text) :
    wholeNumber text = .error (unreadable text) := by
  obtain ⟨hne, hlike, hreason⟩ := h
  rw [wholeNumber_of_digitLike hne hlike, unreadable]
  split
  · rfl
  · next hfits =>
    -- If all digits were decimal, there would be too many of them in front.
    have hsome : ¬text.toList.all isDecimal = true := by
      rw [List.all_eq_true]
      intro hdigits
      rw [List.takeWhile_eq_self_iff.mpr hdigits] at hfits
      obtain ⟨c, hc, hsign⟩ := hreason.resolve_right hfits
      exact Bool.false_ne_true ((isDecimal_of_digitSign hsign).symm.trans (hdigits c hc))
    rw [if_neg hsome]

end Text

/-! ### References -/

namespace Reference

open Text (IsNumeral IsUnreadable numeralValue unreadable isDigitLike)

/-- The test for a number is that the text is like one. -/
theorem tested_iff (text : String) : (!text.isEmpty && text.toList.all isDigitLike) = true ↔
    text ≠ "" ∧ ∀ c ∈ text.toList, isDigitLike c = true := by
  rw [Bool.and_eq_true, List.all_eq_true, Bool.not_eq_true', ← Bool.not_eq_true,
    String.isEmpty_iff]

/-- What is like a number goes to the reader of numbers. -/
theorem ofText_of_digitLike (hne : text ≠ "") (h : ∀ c ∈ text.toList, isDigitLike c = true) :
    ofText text = Reference.oid <$> Text.wholeNumber text := by
  rw [ofText, if_pos ((tested_iff text).mpr ⟨hne, h⟩)]

theorem ofText_numeral (h : IsNumeral text) :
    ofText text = .ok (.oid (numeralValue text)) := by
  rw [ofText_of_digitLike h.1 h.digitLike, Text.wholeNumber_numeral h]
  rfl

theorem ofText_unreadable (h : IsUnreadable text) : ofText text = .error (unreadable text) := by
  rw [ofText_of_digitLike h.1 h.2.1, Text.wholeNumber_unreadable h]
  rfl

theorem ofText_name (hnumeral : ¬IsNumeral text) (hunreadable : ¬IsUnreadable text) :
    ofText text = .ok (.name text) := by
  rw [ofText, if_neg]
  intro htested
  obtain ⟨hne, hlike⟩ := (tested_iff text).mp htested
  exact (Text.isNumeral_or_isUnreadable hne hlike).elim hnumeral hunreadable

/-- **A text is refused if and only if it is like a number and cannot be read.** -/
theorem ofText_error_iff {e : Error} :
    ofText text = .error e ↔ IsUnreadable text ∧ e = unreadable text := by
  constructor
  · intro h
    by_cases hunreadable : IsUnreadable text
    · rw [ofText_unreadable hunreadable] at h
      exact ⟨hunreadable, (Except.error.inj h).symm⟩
    · by_cases hnumeral : IsNumeral text
      · rw [ofText_numeral hnumeral] at h
        cases h
      · rw [ofText_name hnumeral hunreadable] at h
        cases h
  · rintro ⟨h, rfl⟩
    exact ofText_unreadable h

end Reference

/-! ### Commands -/

namespace Shell.Command

open Text (IsNumeral IsUnreadable numeralValue unreadable)

variable {command : Command} {first second : String} {request : Inquiry → Reference → Scan Answer}
  {session : Session} {inquiry : Inquiry}

/-- The inquiry that a command makes about a reference, if it takes one. -/
def about? (second : String) : Command → Option (Inquiry → Reference → Scan Answer)
  | databaseSize => some fun inquiry reference =>
    (fun n : Nat => .number n) <$> inquiry.databaseSize reference
  | tablespaceSize => some fun inquiry reference => .ofSize <$> inquiry.tablespaceSize reference
  | relationSize => some fun inquiry reference => .ofSize <$> inquiry.relationSize second reference
  | tableSize => some fun inquiry reference =>
    .ofSize <$> inquiry.measured inquiry.tableSize reference
  | indexesSize => some fun inquiry reference =>
    .ofSize <$> inquiry.measured inquiry.indexesSize reference
  | totalSize => some fun inquiry reference =>
    .ofSize <$> inquiry.measured inquiry.totalSize reference
  | fileNumber => some fun inquiry reference =>
    .ofNumber <$> Scan.ofExcept (inquiry.fileNumber reference)
  | filePath => some fun inquiry reference =>
    .ofText <$> Scan.ofExcept (inquiry.filePath reference)
  | pretty | prettyNumeric | bytes | relationOfFile | use | role => none

/-- A command depends on the text of a reference only by what it spells. -/
theorem run_eq_ask (h : command.about? second = some request) (view : View) :
    command.run first second view session =
      ((session.ask fun inquiry => Scan.ofExcept (Reference.ofText first) >>= request inquiry).start
        view, session) := by
  -- The commands of the family differ in their inquiries alone, and the others have none.
  cases command <;> cases h <;> rfl

/-- **A command makes its inquiry about the reference, or ends with the complaint about it.** -/
theorem run_eq (h : command.about? second = some request) (hinquiry : session.inquiry = .ok inquiry)
    (view : View) : command.run first second view session =
      (match Reference.ofText first with
        | .ok reference => (request inquiry reference).start view
        | .error e => (.error e, Activity.none), session) := by
  rw [run_eq_ask h, Session.ask, hinquiry, Scan.start_eq, Scan.runFrom_bind, Scan.runFrom_ofExcept]
  dsimp only
  rw [Scan.runFrom_bind, Scan.runFrom_ofExcept]
  cases Reference.ofText first <;> rfl

/-- **What comes of the text of a reference.** It is a number, a name, or refused, and which of these
is known from its characters and their number. A command makes its inquiry about the number or the
name, and of a text that is refused there comes the complaint about it and nothing else. -/
theorem run_reference (text : String) :
    (IsNumeral text → Reference.ofText text = .ok (.oid (numeralValue text))) ∧
    (¬IsNumeral text → ¬IsUnreadable text → Reference.ofText text = .ok (.name text)) ∧
    (∀ e, Reference.ofText text = .error e ↔ IsUnreadable text ∧ e = unreadable text) ∧
    ∀ command second request, about? second command = some request →
      ∀ session inquiry, session.inquiry = .ok inquiry → ∀ view,
        (∀ reference, Reference.ofText text = .ok reference →
          command.run text second view session =
            ((request inquiry reference).start view, session)) ∧
        (IsUnreadable text → command.run text second view session =
          ((.error (unreadable text), Activity.none), session)) := by
  refine ⟨Reference.ofText_numeral, Reference.ofText_name, fun e => Reference.ofText_error_iff, ?_⟩
  intro command second request habout session inquiry hinquiry view
  constructor
  · intro reference hreference
    rw [run_eq habout hinquiry, hreference]
  · intro hunreadable
    rw [run_eq habout hinquiry, Reference.ofText_unreadable hunreadable]

/-- A number in digits of another script, a name, and a square that is neither. -/
theorem run_reference_spellings :
    let session : Session :=
      ⟨{}, .saved .bootstrap, "postgres", some "postgres", some ⟨"postgres", 5⟩⟩
    Reference.ofText "٣٤" = .ok (.oid 34) ∧ Reference.ofText "t34" = .ok (.name "t34") ∧
      ∀ view, totalSize.run "5²" usualFork view session =
        ((.error (.integerSyntax "'5²'"), Activity.none), session) := by
  intro session
  have hsquare : IsUnreadable "5²" := by
    exact ⟨by decide, List.all_eq_true.mp (by decide), Or.inl ⟨'²', by decide, by decide⟩⟩
  refine ⟨?_, ?_, fun view => ?_⟩
  · exact (run_reference "٣٤").1 ⟨by decide, List.all_eq_true.mp (by decide), by decide⟩
  · obtain ⟨-, hname, -⟩ := run_reference "t34"
    refine hname (fun h => ?_) fun h => ?_
    · exact absurd (h.2.1 't' (by decide)) (by decide)
    · exact absurd (h.2.1 't' (by decide)) (by decide)
  · obtain ⟨-, -, -, hrun⟩ := run_reference "5²"
    have hcomplaint : unreadable "5²" = .integerSyntax "'5²'" := by decide +kernel
    rw [← hcomplaint]
    exact (hrun totalSize usualFork _ rfl session _ rfl view).2 hsquare

/-- A table may be named by a superscript, and has a path. The command for it refuses the name. -/
theorem run_superscript :
    let op : Catalog.Operation := .createRelation { database := "postgres", name := "²" }
    let store := ((Store.saved .bootstrap).perform op).2
    let session : Session := ⟨{}, store, "postgres", some "postgres", some ⟨"postgres", 5⟩⟩
    let view : View := { tree := .empty, root := "data", watch := none }
    (session.inquiry >>= fun inquiry => inquiry.filePath (.name "²")) =
        .ok (some "base/5/16384") ∧
      Reference.ofText "²" = .error (.integerSyntax "'²'") ∧
      (filePath.run "²" usualFork view session).1.1 = .error (.integerSyntax "'²'") := by
  decide +kernel

end Shell.Command

end Footprint
