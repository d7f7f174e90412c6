import Footprint.Proofs.Json.RoundTrip

/-!
# Writing that stops

Writing piece by piece puts out the text of a value, or stops at an integer that has too many digits
and has put out a part of the text by then. `Json.Written.Of` says both, and it is carried from the
parts of a value to the value by one rule for each way in which pieces are put together; so the
proof of `Json.dump_of` follows the data.
-/

namespace Footprint.Json

/-- Something has been written of a text in which some integers stand: all of it, and none of the
integers has too many digits, or a part from its start, and one of them has. -/
def Written.Of (limit : Nat) (integers : List Int) (full : List Char) : Written → Prop
  | .whole text => text = full ∧ ∀ n ∈ integers, digits n ≤ limit
  | .cut text => text <+: full ∧ ∃ n ∈ integers, limit < digits n

namespace Written.Of

variable {limit : Nat} {ms ns : List Int} {full next : List Char} {written more : Written}

theorem whole (text : List Char) : Of limit [] text (.whole text) := ⟨rfl, nofun⟩

theorem behind (h : Of limit ns full written) (front : List Char) :
    Of limit ns (front ++ full) (written.behind front) := by
  cases written with
  | whole text => exact ⟨congrArg (front ++ ·) h.1, h.2⟩
  | cut text => exact ⟨(List.prefix_append_right_inj front).mpr h.1, h.2⟩

theorem itemBehind (h : Of limit ns full written) (front : List Char) (item : Datum) :
    Of limit ns (front ++ full) (written.itemBehind front item) := by
  unfold Written.itemBehind
  split
  · -- The item is a number: what precedes it is written together with it, so it is missing as well.
    exact ⟨List.nil_prefix, h.2⟩
  · exact h.behind front

theorem followedBy (h : Of limit ns full written) (hmore : Of limit ms next more) :
    Of limit (ns ++ ms) (full ++ next) (written.followedBy more) := by
  cases written with
  | cut text =>
    -- What follows is not written, but it may still hold integers.
    obtain ⟨n, hn, hlong⟩ := h.2
    exact ⟨h.1.trans (List.prefix_append full next), n, List.mem_append_left ms hn, hlong⟩
  | whole text =>
    obtain ⟨rfl, hshort⟩ := h
    have hbehind := hmore.behind text
    rw [Written.followedBy]
    cases more with
    | whole after =>
      exact ⟨hbehind.1, fun n hn => (List.mem_append.mp hn).elim (hshort n) (hbehind.2 n)⟩
    | cut after =>
      obtain ⟨n, hn, hlong⟩ := hbehind.2
      exact ⟨hbehind.1, n, List.mem_append_right ns hn, hlong⟩

end Written.Of

variable (limit : Nat)

mutual

/-- **A value is written, or an integer in it has too many digits.** In a list or a record the first
part is written behind the bracket, and the closing bracket is written behind the last one; it holds
no integers, so those of the whole are those of its parts. -/
theorem dump_of (level : Nat) : ∀ d : Datum,
    Written.Of limit d.integers (write level d) (dump limit level d)
  | .null => .whole _
  | .bool _ => .whole _
  | .float _ => .whole _
  | .text _ => .whole _
  | .int n => by
    rw [dump]
    split
    · next hlong => exact ⟨List.nil_prefix, n, List.mem_singleton_self n, hlong⟩
    · next hshort =>
      exact ⟨rfl, List.forall_mem_singleton.mpr (Nat.le_of_not_lt hshort)⟩
  | .list [] => .whole _
  | .list (item :: rest) => by
    have hitem := (dump_of (level + 1) item).itemBehind ('[' :: newline (level + 1)) item
    have hrest := (dumpItems_of (level + 1) rest).followedBy (.whole (newline level ++ [']']))
    have hlist := hitem.followedBy hrest
    rw [List.append_nil] at hlist
    simpa [dump, write, Datum.integers, Datum.integersOfItems] using hlist
  | .record [] => .whole _
  | .record ((name, value) :: rest) => by
    have hvalue := (dump_of (level + 1) value).behind
      ('\x7b' :: newline (level + 1) ++ writeText name ++ [':', ' '])
    have hrest := (dumpFields_of (level + 1) rest).followedBy (.whole (newline level ++ ['\x7d']))
    have hrecord := hvalue.followedBy hrest
    rw [List.append_nil] at hrecord
    simpa [dump, write, Datum.integers, Datum.integersOfFields] using hrecord

theorem dumpItems_of (level : Nat) : ∀ items : List Datum,
    Written.Of limit (Datum.integersOfItems items) (writeItems level items)
      (dumpItems limit level items)
  | [] => .whole _
  | item :: rest => by
    have hitem := (dump_of level item).itemBehind (',' :: newline level) item
    have hitems := hitem.followedBy (dumpItems_of level rest)
    simpa [dumpItems, writeItems, Datum.integersOfItems] using hitems

theorem dumpFields_of (level : Nat) : ∀ fields : List (String × Datum),
    Written.Of limit (Datum.integersOfFields fields) (writeFields level fields)
      (dumpFields limit level fields)
  | [] => .whole _
  | (name, value) :: rest => by
    have hvalue := (dump_of level value).behind
      (',' :: newline level ++ writeText name ++ [':', ' '])
    have hfields := hvalue.followedBy (dumpFields_of level rest)
    simpa [dumpFields, writeFields, Datum.integersOfFields] using hfields

end

end Footprint.Json
