import UtilityClasses.Proofs.FurtherArguments
import UtilityClasses.Proofs.Spans

/-!
# The argument of a call is what stands between its parentheses

The text of a closed call is taken apart again when the call is evaluated: its name and its two
parentheses are removed. What is left are the bytes of the source between the parentheses that the
search found, blanks and further parentheses included, whatever the name is.
-/

namespace UtilityClasses.Source

open UtilityClasses.Text

variable {source name : String} {place : Place}

theorem byteLength_call (name : String) (inner : List Char) :
    byteLength (name.toList ++ '(' :: (inner ++ [')']))
      = name.utf8ByteSize + 1 + byteLength inner + 1 := by
  have hopen : '('.utf8Size = 1 := rfl
  have hclose : ')'.utf8Size = 1 := rfl
  simp only [byteLength_append, byteLength_cons, byteLength_nil, byteLength_toList, hopen, hclose]
  omega

/-- The bytes between the parentheses of a list that stands behind a name. -/
theorem slice_list {inner after : List Char} (hplace : place.In source)
    (hafter : place.after = name.toList ++ '(' :: (inner ++ ')' :: after)) :
    slice source (place.offset + name.utf8ByteSize + 1)
        (place.offset + name.utf8ByteSize + 1 + byteLength inner)
      = String.ofList inner := by
  -- The list is read from the place behind its opening parenthesis.
  let behind : Place := ⟨'(' :: (name.toList.reverse ++ place.before), inner ++ ')' :: after⟩
  have hbehind : behind.In source := by
    rw [Place.In, ← hplace, hafter]
    simp [behind]
  have hoffset : behind.offset = place.offset + name.utf8ByteSize + 1 := by
    have hsize : '('.utf8Size = 1 := rfl
    simp only [behind, Place.offset, byteLength_cons, byteLength_append, byteLength_reverse,
      byteLength_toList, hsize]
    omega
  have hinner : behind.after = inner ++ ')' :: after := rfl
  rw [← hoffset]
  exact slice_offset hbehind hinner

/-- Where a closed list ends: behind its own bytes and its two parentheses. -/
theorem closingParen_list {inner after : List Char} (hplace : place.In source)
    (hafter : place.after = name.toList ++ '(' :: (inner ++ ')' :: after))
    (hlist : listLength ('(' :: (inner ++ ')' :: after)) = some (inner.length + 2)) :
    closingParen source (place.offset + name.utf8ByteSize)
      = some (place.offset + name.utf8ByteSize + 1 + byteLength inner + 1) := by
  rw [closingParen_offset hplace hafter, hlist, Option.map_some, take_list, byteLength_call,
    Option.some.injEq]
  omega

/-- **The argument of a closed call is what stands between its parentheses**, byte for byte, and it
is not blank. -/
theorem argumentText_between (source name : String) :
    (locatedCalls source name).map LocatedCall.site = callSites source name
      ∧ ∀ call ∈ locatedCalls source name, call.site.terminated = true →
        ∃ closing, closingParen source (call.offset + name.utf8ByteSize) = some closing
          ∧ call.site.text = slice source call.offset closing
          ∧ argumentText call.site.text name
            = slice source (call.offset + name.utf8ByteSize + 1) (closing - 1)
          ∧ (argumentText call.site.text name).toList.all isBlank = false := by
  refine ⟨map_site_locatedCalls source name, ?_⟩
  intro call hcall hclosed
  obtain ⟨place, hplace, hcallPlace, hsite, hoffset⟩ := exists_place_of_mem_locatedCalls hcall
  obtain ⟨inner, after, hafter, hlist, htext, hfilled⟩ :=
    exists_list_of_callSiteAt hcallPlace hsite hclosed
  rw [← hoffset]
  have hwhole : call.site.text = name ++ "(" ++ String.ofList inner ++ ")" := by
    rw [← String.toList_inj, htext]
    simp
  have hargument : argumentText call.site.text name = String.ofList inner := by
    rw [hwhole, argumentText_call]
  have hclosing := closingParen_list hplace hafter hlist
  refine ⟨_, hclosing, ?_, ?_, ?_⟩
  · have hpiece : place.after = call.site.text.toList ++ after := by
      rw [hafter, htext]
      simp
    have hsize : place.offset + name.utf8ByteSize + 1 + byteLength inner + 1
        = place.offset + byteLength call.site.text.toList := by
      rw [htext, byteLength_call]
      omega
    rw [hsize, slice_offset hplace hpiece, String.ofList_toList]
  · rw [hargument, Nat.add_sub_cancel]
    exact (slice_list hplace hafter).symm
  · rw [hargument, String.toList_ofList]
    exact hfilled

/-- A name with a blank in it, and an argument that begins with a parenthesis and ends in a blank. -/
theorem argumentText_between_parentheses :
    let source := "é t c((é)\u3000)t c( )"
    let text := "t c((é)\u3000)"
    (⟨3, ⟨text, 1, 3, true⟩⟩ : LocatedCall) ∈ locatedCalls source "t c"
      ∧ (∃ closing, closingParen source (3 + "t c".utf8ByteSize) = some closing
        ∧ text = slice source 3 closing
        ∧ argumentText text "t c" = slice source (3 + "t c".utf8ByteSize + 1) (closing - 1)
        ∧ (argumentText text "t c").toList.all isBlank = false)
      ∧ argumentText text "t c" = "(é)\u3000" := by
  intro source text
  have hcall : (⟨3, ⟨text, 1, 3, true⟩⟩ : LocatedCall) ∈ locatedCalls source "t c" := by
    decide +kernel
  exact ⟨hcall, (argumentText_between _ _).2 _ hcall rfl, by decide +kernel⟩

end UtilityClasses.Source
