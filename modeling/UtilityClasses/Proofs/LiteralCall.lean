import UtilityClasses.Proofs.CallSites
import UtilityClasses.Proofs.Collected
import UtilityClasses.Proofs.FurtherArguments
import UtilityClasses.Proofs.LiteralValues

/-!
# No class of a literal call is missed

A call whose argument is the JSON text of an object may stand anywhere in a text, in markup, in a
string or in a comment, if no name runs into its own. It is found, its list closes behind the JSON
text whatever follows, and reducing the literal loses no class.
-/

namespace UtilityClasses

open Json (Value Fields)
open Script (Expr Spells parseExpression_compact)
open Source
open Text

/-- A text behind which a name begins anew: it is empty, or its last character is an ASCII one that
is in no name. -/
def EndsOutsideName (host : String) : Prop :=
  ∀ char, host.toList.getLast? = some char →
    char.toNat < 128 ∧ char.isAlphanum = false ∧ char ≠ '_' ∧ char ≠ '$'

variable {host rest : String} {fields : Fields}

/-! ### The call as it is found -/

theorem mem_placesFrom {after : List Char} (hafter : after ≠ []) (before left : List Char) :
    ⟨left.reverse ++ before, after⟩ ∈ placesFrom before (left ++ after) := by
  induction left generalizing before with
  | nil =>
      obtain ⟨char, rest, rfl⟩ := List.exists_cons_of_ne_nil hafter
      exact List.mem_cons_self
  | cons char left ih =>
      rw [List.cons_append, placesFrom, List.reverse_cons, List.append_assoc]
      exact List.mem_cons_of_mem _ (ih (char :: before))

theorem EndsOutsideName.not_continued (hhost : EndsOutsideName host) :
    host.toList.reverse.head?.any continuesName = false := by
  rw [List.head?_reverse]
  cases hlast : host.toList.getLast? with
  | none => rfl
  | some char =>
      obtain ⟨hascii, halpha, hline, hdollar⟩ := hhost char hlast
      have hbelow : ¬128 ≤ char.toNat := by omega
      simp [continuesName, halpha, hline, hdollar, hbelow]

def callOf (argument : String) : String := "tc(" ++ argument ++ ")"

theorem toList_callOf (argument : String) :
    (callOf argument).toList = 't' :: 'c' :: '(' :: (argument.toList ++ [')']) := by
  simp [callOf]

/-- What is reported behind a host text is reported in the whole text. -/
theorem mem_callSites_behind {source : String} {list : List Char} {site : CallSite}
    (hhost : EndsOutsideName host)
    (hsource : source.toList = host.toList ++ 't' :: 'c' :: '(' :: list)
    (hsite : callSiteAt ['t', 'c'] ⟨host.toList.reverse, 't' :: 'c' :: '(' :: list⟩ = some site) :
    site ∈ callSites source defaultFunctionName := by
  have hplace : ⟨host.toList.reverse, 't' :: 'c' :: '(' :: list⟩ ∈ placesFrom [] source.toList := by
    have hmem := mem_placesFrom (List.cons_ne_nil 't' ('c' :: '(' :: list)) [] host.toList
    rwa [List.append_nil, ← hsource] at hmem
  have hcall : isCallPlace ['t', 'c'] ⟨host.toList.reverse, 't' :: 'c' :: '(' :: list⟩ = true := by
    rw [isCallPlace, isCallStart, hhost.not_continued]
    rfl
  rw [callSites_eq_places _ (by decide)]
  exact List.mem_filterMap.2 ⟨_, List.mem_filter.2 ⟨hplace, hcall⟩, hsite⟩

/-- A call whose argument is balanced and does not begin with a blank is found as it is written. -/
theorem exists_callSite {argument : String} {first : Char} (hhost : EndsOutsideName host)
    (hargument : argument.toList.head? = some first) (hfirst : isBlank first = false)
    (hbalanced : Balanced .code argument.toList) :
    ∃ site ∈ callSites (host ++ callOf argument ++ rest) defaultFunctionName,
      site.text = callOf argument := by
  have hsource : (host ++ callOf argument ++ rest).toList
      = host.toList ++ 't' :: 'c' :: '(' :: (argument.toList ++ ')' :: rest.toList) := by
    simp [toList_callOf]
  have hfilled : argument.toList.all isBlank = false :=
    List.all_eq_false.2 ⟨first, List.mem_of_head? hargument, by simp [hfirst]⟩
  let place : Place :=
    ⟨host.toList.reverse, ['t', 'c'] ++ '(' :: (argument.toList ++ ')' :: rest.toList)⟩
  have hafter : place.after = ['t', 'c'] ++ '(' :: (argument.toList ++ ')' :: rest.toList) := rfl
  have hclosed := callSiteAt_closed hafter (listLength_of_balanced hbalanced rest.toList)
  rw [hfilled, if_neg Bool.false_ne_true] at hclosed
  refine ⟨_, mem_callSites_behind hhost hsource hclosed, ?_⟩
  rw [← String.ofList_toList (s := callOf argument), toList_callOf]
  rfl

/-! ### The call as it is evaluated -/

/-- The class string of a call with a literal for its argument is that of the reduced literal. -/
theorem resolveCall_of_argumentText {call : String} (hjson : (Value.object fields).IsJson)
    (hargument : argumentText call defaultFunctionName = (Value.object fields).compact) :
    ∃ expr, Spells (.object fields) expr
      ∧ resolveCall defaultFunctionName call = .ok (resolveValue (reduce expr)) := by
  obtain ⟨expr, hspells, hparse⟩ := parseExpression_compact hjson
  have hfirst : firstOf expr = expr := by
    cases hspells
    rfl
  refine ⟨expr, hspells, ?_⟩
  rw [resolveCall, evaluateCall, hargument, hparse]
  simp only [Except.map, hfirst]

theorem resolveCall_literal (hjson : (Value.object fields).IsJson) :
    ∃ expr, Spells (.object fields) expr
      ∧ resolveCall defaultFunctionName (callOf (Value.object fields).compact)
        = .ok (resolveValue (reduce expr)) :=
  resolveCall_of_argumentText hjson (argumentText_call defaultFunctionName _)

/-- **No class of a literal call is missed**, whatever surrounds it. -/
theorem classes_of_literalCall {token : String} (hjson : (Value.object fields).IsJson)
    (hhost : EndsOutsideName host) (rest : String)
    (htoken : token ∈ wordsOf (resolveValue (.object fields))) :
    token ∈ wordsOf (classesOfSources
      [host ++ "tc(" ++ (Value.object fields).compact ++ ")" ++ rest]) := by
  have hsource : host ++ "tc(" ++ (Value.object fields).compact ++ ")" ++ rest
      = host ++ callOf (Value.object fields).compact ++ rest := by
    simp only [callOf, String.append_assoc]
  have hhead : (Value.object fields).compact.toList.head? = some '\x7b' := by
    rw [Json.compact_object]
    rfl
  have hbalanced : Balanced .code (Value.object fields).compact.toList := by
    have hempty := Json.balanced_compact (.object fields) hjson (.nil .code)
    rwa [List.append_nil] at hempty
  have hblank : isBlank '\x7b' = false := by decide
  obtain ⟨site, hsite, htext⟩ := exists_callSite hhost hhead hblank hbalanced
  obtain ⟨expr, hspells, hresolve⟩ := resolveCall_literal hjson
  rw [← htext] at hresolve
  have hreduced := (tokens_sublist_spelled hjson hspells).subset htoken
  rw [hsource]
  exact mem_classesOfSources.2 ⟨_, List.mem_singleton_self _, site, hsite, _, hresolve, hreduced⟩

/-- In markup, between an apostrophe and a comment that never closes, stands a call whose class is
itself the text of a call that never closes. -/
theorem classes_of_literalCall_in_markup :
    let fields : Fields :=
      [("md", .object [("dark", .object [("tc('", .number (.natural 1)), ("b", .null)])])]
    let host := "<p>it's "
    (Value.object fields).IsJson
      ∧ EndsOutsideName host
      ∧ "md:dark:tc('" ∈ wordsOf (resolveValue (.object fields))
      ∧ "md:dark:tc('" ∈ wordsOf (classesOfSources
          [host ++ "tc(" ++ (Value.object fields).compact ++ ")" ++ " /*"]) := by
  intro fields host
  have hjson : (Value.object fields).IsJson := by
    simp [fields, Value.IsJson, Json.fieldsAreJson, Json.Number.IsFinite]
  have hhost : EndsOutsideName host := by
    intro char hlast
    have hend : host.toList.getLast? = some ' ' := by decide
    obtain rfl := Option.some.inj (hend.symm.trans hlast)
    decide
  have htoken : "md:dark:tc('" ∈ wordsOf (resolveValue (.object fields)) := by decide
  exact ⟨hjson, hhost, htoken, classes_of_literalCall hjson hhost " /*" htoken⟩

end UtilityClasses
