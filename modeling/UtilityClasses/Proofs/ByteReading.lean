import Mathlib.Data.List.Chain
import UtilityClasses.Proofs.Utf8
import UtilityClasses.Source.ByteReader

/-!
# A reader of bytes keeps its frames in order and comes to an end

A reader always stands in code or in a template, with code at the bottom, and each turn moves it on. So
a call for the next byte of the code returns after finitely many turns, also where a backslash led
behind the end of the text, and the bytes it returns come in the order of the text.
-/

namespace UtilityClasses.Source

open UtilityClasses.Text

/-! ### Frames -/

def Frame.isTemplate : Frame → Bool
  | .code _ => false
  | .template => true

/-- There is code at the bottom, and code and templates alternate. -/
structure IsNested (frames : List Frame) : Prop where
  bottom : ∃ braces, frames.getLast? = some (.code braces)
  alternates : frames.IsChain fun inner outer => inner.isTemplate ≠ outer.isTemplate

namespace IsNested

variable {frame inner : Frame} {frames outer before after : List Frame}

theorem single (braces : Nat) : IsNested [.code braces] where
  bottom := ⟨braces, rfl⟩
  alternates := .singleton _

theorem push (hnested : IsNested (inner :: outer)) (hother : frame.isTemplate ≠ inner.isTemplate) :
    IsNested (frame :: inner :: outer) where
  bottom := hnested.bottom
  alternates := .cons_cons hother hnested.alternates

theorem pop (hnested : IsNested (frame :: inner :: outer)) : IsNested (inner :: outer) where
  bottom := hnested.bottom
  alternates := hnested.alternates.tail

/-- A template is never at the bottom. -/
theorem popTemplate (hnested : IsNested (.template :: outer)) : IsNested outer := by
  cases outer with
  | nil =>
      obtain ⟨braces, hbraces⟩ := hnested.bottom
      cases hbraces
  | cons inner outer => exact hnested.pop

/-- The braces of the innermost frame may be counted anew. -/
theorem recount {braces : Nat} (hnested : IsNested (.code braces :: outer)) (count : Nat) :
    IsNested (.code count :: outer) := by
  cases outer with
  | nil => exact single count
  | cons inner outer => exact hnested.pop.push (List.isChain_cons_cons.1 hnested.alternates).1

theorem ne_nil (hnested : IsNested frames) : frames ≠ [] := by
  rintro rfl
  obtain ⟨braces, hbraces⟩ := hnested.bottom
  cases hbraces

/-- **A turn keeps code at the bottom and templates between code.** -/
theorem reframed (hnested : IsNested before) (hreframes : Reframes before after) :
    IsNested after := by
  cases hreframes with
  | kept => exact hnested
  | counted braces count outer => exact hnested.recount count
  | intoTemplate hcode =>
      obtain ⟨inner, outer, rfl⟩ := List.exists_cons_of_ne_nil hnested.ne_nil
      cases inner with
      | code braces => exact hnested.push Bool.false_ne_true.symm
      | template => exact absurd rfl hcode
  | outOfTemplate => exact hnested.popTemplate
  | intoCode => exact hnested.push Bool.false_ne_true
  | outOfCode => exact hnested.pop

end IsNested

/-! ### Turns -/

/-- The readers that turns lead to from a new one at `start`. -/
inductive Reached (text : List UInt8) (start : Nat) : ByteReader → Prop where
  | new : Reached text start (.startingAt start)
  | turn {reader following : ByteReader} (hreached : Reached text start reader)
      (hnext : (reader.turn text).LeadsTo following) : Reached text start following

/-- What a call for the next byte of the code comes to, by the turns that lead to it. -/
inductive Returns (text : List UInt8) :
    Nat → ByteReader → Option (Nat × UInt8) → ByteReader → Prop where
  | finished {reader : ByteReader} (hturn : reader.turn text = .finished) :
      Returns text 1 reader none reader
  | reported {reader following : ByteReader} {byte : UInt8}
      (hturn : reader.turn text = .reported byte following) :
      Returns text 1 reader (some (reader.offset, byte)) following
  | passed {reader middle following : ByteReader} {item : Option (Nat × UInt8)} {turns : Nat}
      (hturn : reader.turn text = .passed middle)
      (hreturns : Returns text turns middle item following) :
      Returns text (turns + 1) reader item following

variable {text rest : List UInt8} {start turns : Nat} {item : Option (Nat × UInt8)}
  {reader middle following : ByteReader} {byte other : UInt8}

theorem Reached.isNested (hreached : Reached text start reader) : IsNested reader.frames := by
  induction hreached with
  | new => exact .single 0
  | turn _ hnext hnested => exact hnested.reframed (ByteReader.moves_turn hnext).2.reframes

theorem Reached.passed (hreached : Reached text start reader)
    (hturn : reader.turn text = .passed following) : Reached text start following :=
  hreached.turn (hturn ▸ .passed following)

theorem Reached.reported (hreached : Reached text start reader)
    (hturn : reader.turn text = .reported byte following) : Reached text start following :=
  hreached.turn (hturn ▸ .reported byte following)

theorem ByteReader.turnClosing_reported (hturn : reader.turnClosing byte = .reported other following) :
    other = byte := by
  revert hturn
  fun_cases turnClosing reader byte <;> simp +contextual

theorem ByteReader.turnCode_reported (hturn : reader.turnCode byte rest = .reported other following) :
    other = byte := by
  revert hturn
  fun_cases turnCode reader byte rest with
  | case6 => exact turnClosing_reported
  | _ => simp +contextual

/-- The byte that is reported is the one at the offset. -/
theorem ByteReader.turn_reported (hturn : reader.turn text = .reported byte following) :
    text[reader.offset]? = some byte := by
  have hbyte : text[reader.offset]? = (text.drop reader.offset).head? := List.head?_drop.symm
  revert hturn
  fun_cases turn text reader with
  | case1 => rintro ⟨⟩
  | case2 => rintro ⟨⟩
  | case3 byte rest hdrop =>
      intro hturn
      rw [hbyte, hdrop, turnCode_reported hturn]
      rfl

/-! ### Calls for the next byte -/

/-- **A call returns**, after at most one turn more than there are bytes left. -/
theorem exists_returns (text : List UInt8) (reader : ByteReader) :
    ∃ turns ≤ text.length - reader.offset + 1,
      Returns text turns reader (reader.next text).1 (reader.next text).2 := by
  fun_induction ByteReader.next text reader with
  | case1 reader hturn => exact ⟨1, Nat.le_add_left _ _, .finished hturn⟩
  | case2 reader middle hturn ih =>
      obtain ⟨turns, hturns, hreturns⟩ := ih
      obtain ⟨hinside, hmoves⟩ := ByteReader.moves_passed hturn
      have honward := hmoves.onward
      exact ⟨turns + 1, by omega, .passed hturn hreturns⟩
  | case3 reader byte following hturn => exact ⟨1, Nat.le_add_left _ _, .reported hturn⟩

theorem Returns.reached (hreturns : Returns text turns reader item following)
    (hreached : Reached text start reader) : Reached text start following := by
  induction hreturns with
  | finished => exact hreached
  | reported hturn => exact hreached.reported hturn
  | passed hturn _ ih => exact ih (hreached.passed hturn)

/-- What is returned stands between the two readers. -/
theorem Returns.between (hreturns : Returns text turns reader item following) :
    reader.offset ≤ following.offset ∧ ∀ found ∈ item,
      reader.offset ≤ found.1 ∧ found.1 < following.offset ∧ text[found.1]? = some found.2 := by
  induction hreturns with
  | finished => simp
  | reported hturn =>
      have honward := (ByteReader.moves_reported hturn).2.onward
      refine ⟨honward.le, fun found hfound => ?_⟩
      cases hfound
      exact ⟨Nat.le_refl _, honward, ByteReader.turn_reported hturn⟩
  | passed hturn _ ih =>
      have honward := (ByteReader.moves_passed hturn).2.onward
      refine ⟨honward.le.trans ih.1, fun found hfound => ?_⟩
      obtain ⟨hlower, hupper, hbyte⟩ := ih.2 found hfound
      exact ⟨honward.le.trans hlower, hupper, hbyte⟩

theorem Returns.turn_finished (hreturns : Returns text turns reader none following) :
    following.turn text = .finished := by
  generalize hitem : (none : Option (Nat × UInt8)) = item at hreturns
  induction hreturns with
  | finished hturn => exact hturn
  | reported => cases hitem
  | passed _ _ ih => exact ih hitem

namespace ByteReader

theorem next_reached (hreached : Reached text start reader) :
    Reached text start (reader.next text).2 := by
  obtain ⟨turns, -, hreturns⟩ := exists_returns text reader
  exact hreturns.reached hreached

theorem next_finished (hturn : reader.turn text = .finished) :
    reader.next text = (none, reader) := by
  rw [next]
  split <;> simp_all only [reduceCtorEq]

theorem next_passed (hturn : reader.turn text = .passed middle) :
    reader.next text = middle.next text := by
  rw [next]
  split <;> simp_all only [reduceCtorEq, Turn.passed.injEq]

theorem next_reported (hturn : reader.turn text = .reported byte following) :
    reader.next text = (some (reader.offset, byte), following) := by
  rw [next]
  split <;> simp_all only [reduceCtorEq, Turn.reported.injEq]

/-- A reader at the end of the text stays there. -/
theorem next_again (hnext : reader.next text = (none, following)) :
    following.next text = (none, following) := by
  obtain ⟨turns, -, hreturns⟩ := exists_returns text reader
  rw [hnext] at hreturns
  exact next_finished hreturns.turn_finished

/-- The reader after some calls. -/
def afterCalls (text : List UInt8) (reader : ByteReader) : Nat → ByteReader
  | 0 => reader
  | calls + 1 => ((reader.next text).2).afterCalls text calls

theorem reached_afterCalls (hreached : Reached text start reader) (calls : Nat) :
    Reached text start (reader.afterCalls text calls) := by
  induction calls generalizing reader with
  | zero => exact hreached
  | succ calls ih => exact ih (next_reached hreached)

theorem next_afterCalls_of_none (hnext : reader.next text = (none, following)) (calls : Nat) :
    ((reader.afterCalls text calls).next text).1 = none := by
  induction calls generalizing reader with
  | zero => rw [afterCalls, hnext]
  | succ calls ih =>
      rw [afterCalls, hnext]
      exact ih (next_again hnext)

theorem read_finished (hturn : reader.turn text = .finished) : reader.read text = [] := by
  rw [read]
  split <;> simp_all [next_finished hturn]

theorem read_passed (hturn : reader.turn text = .passed middle) :
    reader.read text = middle.read text := by
  rw [read, read, next_passed hturn]

theorem read_reported (hturn : reader.turn text = .reported byte following) :
    reader.read text = (reader.offset, byte) :: following.read text := by
  rw [read]
  split <;> simp_all [next_reported hturn]

/-- **What is read is what the calls return**, one after the other. -/
theorem getElem?_read (text : List UInt8) (reader : ByteReader) (calls : Nat) :
    (reader.read text)[calls]? = ((reader.afterCalls text calls).next text).1 := by
  fun_induction read text reader generalizing calls with
  | case1 reader following hnext =>
      rw [next_afterCalls_of_none hnext calls]
      rfl
  | case2 reader item following hnext ih =>
      cases calls with
      | zero => rw [afterCalls, hnext]; rfl
      | succ calls =>
          rw [afterCalls, hnext, List.getElem?_cons_succ]
          exact ih calls

/-- What is read stands in the text, from the reader on. -/
theorem of_mem_read {found : Nat × UInt8} (hfound : found ∈ reader.read text) :
    reader.offset ≤ found.1 ∧ text[found.1]? = some found.2 := by
  fun_induction read text reader with
  | case1 => cases hfound
  | case2 reader item following hnext ih =>
      obtain ⟨turns, -, hreturns⟩ := exists_returns text reader
      rw [hnext] at hreturns
      obtain ⟨honward, hbetween⟩ := hreturns.between
      rcases List.mem_cons.1 hfound with rfl | hfound
      · obtain ⟨hlower, -, hbyte⟩ := hbetween found rfl
        exact ⟨hlower, hbyte⟩
      · obtain ⟨hlower, hbyte⟩ := ih hfound
        exact ⟨honward.trans hlower, hbyte⟩

/-- **Bytes are read in their order.** -/
theorem read_pairwise (text : List UInt8) (reader : ByteReader) :
    (reader.read text).Pairwise fun left right => left.1 < right.1 := by
  fun_induction read text reader with
  | case1 => exact .nil
  | case2 reader item following hnext ih =>
      obtain ⟨turns, -, hreturns⟩ := exists_returns text reader
      rw [hnext] at hreturns
      obtain ⟨-, hbetween⟩ := hreturns.between
      obtain ⟨-, hupper, -⟩ := hbetween item rfl
      exact .cons (fun found hfound => hupper.trans_le (of_mem_read hfound).1) ih

end ByteReader

theorem readCode_eq (source : String) (start : Nat) :
    readCode source start = (ByteReader.startingAt start).read (bytes source.toList) := rfl

/-- **A reader keeps its frames nested, moves on with every turn, and returns from every call.** What
the calls return is what is read: bytes of the text with their offsets, in the order of the text. -/
theorem reading_orderly (source : String) (start : Nat) :
    (∀ reader, Reached (bytes source.toList) start reader →
      (reader.frames ≠ [] ∧ IsNested reader.frames)
        ∧ (∀ following, (reader.turn (bytes source.toList)).LeadsTo following →
            reader.offset < following.offset)
        ∧ ∃ turns ≤ source.utf8ByteSize - reader.offset + 1,
            Returns (bytes source.toList) turns reader (reader.next (bytes source.toList)).1
              (reader.next (bytes source.toList)).2)
    ∧ (∀ calls,
        Reached (bytes source.toList) start
            ((ByteReader.startingAt start).afterCalls (bytes source.toList) calls)
          ∧ (readCode source start)[calls]?
            = (((ByteReader.startingAt start).afterCalls (bytes source.toList) calls).next
                (bytes source.toList)).1)
    ∧ (readCode source start).Pairwise (fun left right => left.1 < right.1)
    ∧ ∀ found ∈ readCode source start,
        start ≤ found.1 ∧ found.1 < source.utf8ByteSize
          ∧ (bytes source.toList)[found.1]? = some found.2 := by
  have hlength : (bytes source.toList).length = source.utf8ByteSize := by
    rw [length_bytes, byteLength_toList]
  refine ⟨fun reader hreached => ?_, fun calls => ?_, ?_, fun found hfound => ?_⟩
  · have hnested := hreached.isNested
    refine ⟨⟨hnested.ne_nil, hnested⟩, fun following hnext => ?_, ?_⟩
    · exact (ByteReader.moves_turn hnext).2.onward
    · rw [← hlength]
      exact exists_returns _ reader
  · exact ⟨ByteReader.reached_afterCalls .new calls, ByteReader.getElem?_read _ _ calls⟩
  · exact ByteReader.read_pairwise _ _
  · obtain ⟨hlower, hbyte⟩ := ByteReader.of_mem_read hfound
    obtain ⟨hupper, -⟩ := List.getElem?_eq_some_iff.1 hbyte
    exact ⟨hlower, hlength ▸ hupper, hbyte⟩

/-- Behind a parenthesis a template opens, and the backslash in it is the last byte: it leads behind the
end of the text. -/
theorem reading_orderly_past_end :
    let source := "(\x60\\"
    let reader : ByteReader := ⟨4, [.template, .code 0]⟩
    Reached (bytes source.toList) 0 reader
      ∧ IsNested reader.frames
      ∧ (0, '('.toUInt8) ∈ readCode source 0
      ∧ (bytes source.toList)[0]? = some '('.toUInt8 := by
  intro source reader
  have hopen : (ByteReader.startingAt 0).turn (bytes source.toList)
      = .reported '('.toUInt8 ⟨1, [.code 0]⟩ := by decide +kernel
  have htemplate : (⟨1, [.code 0]⟩ : ByteReader).turn (bytes source.toList)
      = .passed ⟨2, [.template, .code 0]⟩ := by decide +kernel
  have hescape : (⟨2, [.template, .code 0]⟩ : ByteReader).turn (bytes source.toList)
      = .passed reader := by decide +kernel
  have hreached : Reached (bytes source.toList) 0 reader :=
    ((Reached.new.reported hopen).passed htemplate).passed hescape
  have hfound : (0, '('.toUInt8) ∈ readCode source 0 := by
    rw [readCode_eq, ByteReader.read_reported hopen]
    exact List.mem_cons_self
  have horderly := reading_orderly source 0
  exact ⟨hreached, (horderly.1 _ hreached).1.2, hfound, (horderly.2.2.2 _ hfound).2.2⟩

end UtilityClasses.Source
