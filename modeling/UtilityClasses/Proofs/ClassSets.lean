import Mathlib.Data.Finset.Card
import Mathlib.Data.Finset.Insert
import Mathlib.Data.List.Infix
import UtilityClasses.Proofs.Aggregation

/-!
# Sets of classes over a run of operations

A set is filled token by token, class string by class string, or started anew from several texts.
After any run of these its tokens are the ones that were offered since the last start, without the
empty one and without repetition, each where it came first. An index of the tokens, kept beside
their list for looking them up, stays in step with the list. A set whose tokens hold no blanks is
read back from its text.
-/

namespace UtilityClasses

open Text

/-! ### Operations -/

namespace ClassSet

inductive Operation where
  | insert (token : String)
  | insertAll (classes : String)
  | ofList (texts : List String)
  deriving DecidableEq, Repr

def Operation.startsAnew : Operation → Bool
  | .ofList _ => true
  | _ => false

def apply (set : ClassSet) : Operation → ClassSet
  | .insert token => (set.insert token).2
  | .insertAll classes => set.insertAll classes
  | .ofList texts => ofList texts

def run (operations : List Operation) : ClassSet := operations.foldl apply empty

/-- The tokens offered to a set since it was last started anew, the earliest first. -/
def offer (offered : List String) : Operation → List String
  | .insert token => offered ++ [token]
  | .insertAll classes => offered ++ wordsOf classes
  | .ofList texts => texts.flatMap wordsOf

def offered (operations : List Operation) : List String := operations.foldl offer []

end ClassSet

open ClassSet (Operation offer offered)

/-- A set of tokens with an index, in which a token is looked up instead of in the list. -/
structure IndexedSet where
  tokens : List String
  seen : Finset String
  deriving DecidableEq

namespace IndexedSet

def empty : IndexedSet := ⟨[], ∅⟩

def contains (set : IndexedSet) (token : String) : Bool := decide (token ∈ set.seen)

def insert (set : IndexedSet) (token : String) : Bool × IndexedSet :=
  if token.isEmpty || set.contains token then (false, set)
  else (true, ⟨set.tokens ++ [token], Insert.insert token set.seen⟩)

def insertAll (set : IndexedSet) (classes : String) : IndexedSet :=
  (wordsOf classes).foldl (fun grown token => (grown.insert token).2) set

def ofList (texts : List String) : IndexedSet := texts.foldl insertAll empty

def size (set : IndexedSet) : Nat := set.tokens.length

def render (set : IndexedSet) : String := joinWords set.tokens

def apply (set : IndexedSet) : Operation → IndexedSet
  | .insert token => (set.insert token).2
  | .insertAll classes => set.insertAll classes
  | .ofList texts => ofList texts

def run (operations : List Operation) : IndexedSet := operations.foldl apply empty

end IndexedSet

/-! ### The index stays in step with the list -/

namespace ClassSet

variable {set : ClassSet} {token : String} {operations : List Operation}

/-- The set with the index that its list calls for. -/
def indexed (set : ClassSet) : IndexedSet := ⟨set.tokens, set.tokens.toFinset⟩

theorem contains_eq_true : set.contains token = true ↔ token ∈ set.tokens := by
  rw [contains, List.contains_iff_mem]

theorem contains_indexed (set : ClassSet) (token : String) :
    set.indexed.contains token = set.contains token := by
  rw [Bool.eq_iff_iff, contains_eq_true, IndexedSet.contains, decide_eq_true_iff, indexed,
    List.mem_toFinset]

theorem insert_indexed (set : ClassSet) (token : String) :
    set.indexed.insert token = ((set.insert token).1, (set.insert token).2.indexed) := by
  rw [IndexedSet.insert, contains_indexed, insert]
  split
  · rfl
  · have hseen : Insert.insert token set.tokens.toFinset = (set.tokens ++ [token]).toFinset := by
      ext other
      simp
    simp only [indexed, hseen]

theorem insertWords_indexed (set : ClassSet) (words : List String) :
    words.foldl (fun grown token => (grown.insert token).2) set.indexed
      = (set.insertWords words).indexed :=
  List.foldl_hom indexed fun grown token => congrArg Prod.snd (insert_indexed grown token)

theorem insertAll_indexed (set : ClassSet) (classes : String) :
    set.indexed.insertAll classes = (set.insertAll classes).indexed :=
  insertWords_indexed set (wordsOf classes)

theorem ofList_indexed (texts : List String) :
    IndexedSet.ofList texts = (ofList texts).indexed :=
  List.foldl_hom indexed insertAll_indexed

theorem apply_indexed (set : ClassSet) (operation : Operation) :
    set.indexed.apply operation = (set.apply operation).indexed := by
  cases operation with
  | insert token => exact congrArg Prod.snd (insert_indexed set token)
  | insertAll classes => exact insertAll_indexed set classes
  | ofList texts => exact ofList_indexed texts

/-- **The index stays in step with the list** over every run. -/
theorem run_indexed (operations : List Operation) :
    IndexedSet.run operations = (run operations).indexed :=
  List.foldl_hom indexed apply_indexed

/-! ### What was offered is listed where it came first -/

/-- The tokens are those that were offered, but for the empty one, each where it came first. -/
structure ListsFirst (tokens offered : List String) : Prop where
  mem_iff : ∀ token, token ∈ tokens ↔ token ∈ offered ∧ token ≠ ""
  ordered : tokens.Pairwise fun left right => offered.idxOf left < offered.idxOf right

namespace ListsFirst

variable {tokens offers : List String}

theorem nodup (hlist : ListsFirst tokens offers) : tokens.Nodup :=
  hlist.ordered.imp fun hlt heq => absurd (congrArg offers.idxOf heq) (Nat.ne_of_lt hlt)

theorem empty : ListsFirst ClassSet.empty.tokens [] where
  mem_iff := by simp [ClassSet.empty]
  ordered := .nil

/-- What is listed keeps its order when more is offered. -/
theorem ordered_append (hlist : ListsFirst tokens offers) (more : List String) :
    tokens.Pairwise fun left right =>
      (offers ++ more).idxOf left < (offers ++ more).idxOf right := by
  refine hlist.ordered.imp_of_mem ?_
  intro left right hleft hright hlt
  rw [List.idxOf_append_of_mem ((hlist.mem_iff left).1 hleft).1,
    List.idxOf_append_of_mem ((hlist.mem_iff right).1 hright).1]
  exact hlt

theorem insert (hset : ListsFirst set.tokens offers) (token : String) :
    ListsFirst (set.insert token).2.tokens (offers ++ [token]) where
  mem_iff := by
    intro other
    rw [mem_insert, hset.mem_iff, List.mem_append, List.mem_singleton]
    constructor
    · rintro (⟨hother, hne⟩ | ⟨rfl, hne⟩)
      · exact ⟨Or.inl hother, hne⟩
      · exact ⟨Or.inr rfl, hne⟩
    · rintro ⟨hother | rfl, hne⟩
      · exact Or.inl ⟨hother, hne⟩
      · exact Or.inr ⟨rfl, hne⟩
  ordered := by
    have hkept := hset.ordered_append [token]
    rw [tokens_insert]
    split
    · exact hkept
    · next hnew =>
      -- The new token was not offered before, so all that is listed came before it.
      rw [not_or] at hnew
      have hfresh : token ∉ offers := fun hoffered =>
        hnew.2 ((hset.mem_iff token).2 ⟨hoffered, hnew.1⟩)
      rw [List.pairwise_append]
      refine ⟨hkept, List.pairwise_singleton _ _, ?_⟩
      intro other hother last hlast
      have hoffered := ((hset.mem_iff other).1 hother).1
      rw [List.mem_singleton.1 hlast, List.idxOf_append_of_mem hoffered,
        List.idxOf_append_of_notMem hfresh, List.idxOf_cons_self, Nat.add_zero]
      exact List.idxOf_lt_length_of_mem hoffered

theorem insertWords (hset : ListsFirst set.tokens offers) (words : List String) :
    ListsFirst (set.insertWords words).tokens (offers ++ words) := by
  induction words generalizing set offers with
  | nil => rwa [List.append_nil]
  | cons word rest ih =>
      have hrest := ih (hset.insert word)
      rwa [List.append_assoc] at hrest

theorem apply (hset : ListsFirst set.tokens offers) (operation : Operation) :
    ListsFirst (set.apply operation).tokens (offer offers operation) := by
  cases operation with
  | insert token => exact hset.insert token
  | insertAll classes => exact hset.insertWords (wordsOf classes)
  | ofList texts =>
      have htexts := empty.insertWords (texts.flatMap wordsOf)
      rw [← foldl_insertAll, List.nil_append] at htexts
      exact htexts

/-- **A run lists what was offered**, each token where it came first. -/
theorem run (operations : List Operation) :
    ListsFirst (ClassSet.run operations).tokens (offered operations) :=
  List.foldl_rel (r := fun (set : ClassSet) offers => ListsFirst set.tokens offers) empty
    fun operation _ _ _ hset => hset.apply operation

end ListsFirst

theorem prefix_insertWords (set : ClassSet) (words : List String) :
    set.tokens <+: (set.insertWords words).tokens := by
  rw [tokens_insertWords]
  exact List.prefix_append _ _

theorem prefix_apply (set : ClassSet) {operation : Operation}
    (hkeeps : operation.startsAnew = false) : set.tokens <+: (set.apply operation).tokens := by
  cases operation with
  | insert token => exact prefix_insertWords set [token]
  | insertAll classes => exact prefix_insertWords set (wordsOf classes)
  | ofList texts => exact absurd hkeeps nofun

/-! ### Sets without blanks are read back -/

/-- New words are put behind what is there as they are. -/
theorem tokens_insertWords_new {words : List String} (hnew : (set.tokens ++ words).Nodup)
    (hwords : "" ∉ words) : (set.insertWords words).tokens = set.tokens ++ words := by
  induction words generalizing set with
  | nil => exact (List.append_nil _).symm
  | cons word rest ih =>
      rw [List.mem_cons, not_or] at hwords
      have hfresh : word ∉ set.tokens := fun hmem =>
        List.disjoint_of_nodup_append hnew hmem List.mem_cons_self
      have hinsert : (set.insert word).2.tokens = set.tokens ++ [word] := by
        rw [tokens_insert, if_neg (not_or.2 ⟨Ne.symm hwords.1, hfresh⟩)]
      have hrest : ((set.insert word).2.tokens ++ rest).Nodup := by
        rwa [hinsert, List.append_assoc]
      calc (set.insertWords (word :: rest)).tokens
          = (set.insert word).2.tokens ++ rest := ih hrest hwords.2
        _ = set.tokens ++ word :: rest := by rw [hinsert, List.append_assoc, List.singleton_append]

theorem ofList_render (hnodup : set.tokens.Nodup) (hwords : ∀ token ∈ set.tokens, IsWord token) :
    ofList [set.render] = set := by
  have hempty : "" ∉ set.tokens := fun hmem => (hwords "" hmem).1 rfl
  have htokens : (empty.insertWords set.tokens).tokens = set.tokens :=
    tokens_insertWords_new hnodup hempty
  calc ofList [set.render]
      = empty.insertWords (wordsOf set.render) := rfl
    _ = empty.insertWords set.tokens := by rw [render, wordsOf_joinWords hwords]
    _ = set := congrArg ClassSet.mk htokens

/-- No token that is offered holds a blank, if none does that is put in by itself. -/
theorem offered_noBlank (hinserted : ∀ token, .insert token ∈ operations →
      ∀ char ∈ token.toList, isBlank char = false) :
    ∀ token ∈ offered operations, ∀ char ∈ token.toList, isBlank char = false := by
  refine List.foldlRecOn (motive := fun tokens => ∀ token ∈ tokens, ∀ char ∈ token.toList,
    isBlank char = false) operations offer (List.forall_mem_nil _) ?_
  intro tokens htokens operation hoperation token htoken
  cases operation with
  | insert inserted =>
      rcases List.mem_append.1 htoken with htoken | htoken
      · exact htokens token htoken
      · rw [List.mem_singleton.1 htoken]
        exact hinserted inserted hoperation
  | insertAll classes =>
      rcases List.mem_append.1 htoken with htoken | htoken
      · exact htokens token htoken
      · exact (isWord_of_mem_wordsOf htoken).2
  | ofList texts =>
      obtain ⟨text, -, hword⟩ := List.mem_flatMap.1 htoken
      exact (isWord_of_mem_wordsOf hword).2

end ClassSet

/-! ### What holds after every run -/

/-- What a set with an index holds and answers after a run of operations. -/
structure IndexedSet.Reflects (set : IndexedSet) (operations : List Operation) : Prop where
  agrees : set = (ClassSet.run operations).indexed
  contains_eq : ∀ token, set.contains token = (ClassSet.run operations).contains token
  insert_eq : ∀ token, (set.insert token).1 = ((ClassSet.run operations).insert token).1
  nodup : set.tokens.Nodup
  filled : "" ∉ set.tokens
  contains_iff : ∀ token, set.contains token = true ↔ token ∈ set.tokens
  size_eq : set.size = set.seen.card
  lists : ClassSet.ListsFirst set.tokens (offered operations)
  insert_iff : ∀ token, (set.insert token).1 = true ↔ token ≠ "" ∧ set.contains token = false
  grows : ∀ operation, operation.startsAnew = false → set.tokens <+: (set.apply operation).tokens

theorem IndexedSet.insert_fst (set : IndexedSet) (token : String) :
    (set.insert token).1 = true ↔ token ≠ "" ∧ set.contains token = false := by
  rw [IndexedSet.insert]
  split
  · next hknown =>
    rw [Bool.or_eq_true, String.isEmpty_iff] at hknown
    simp only [Bool.false_eq_true, false_iff, not_and, Bool.not_eq_false]
    exact hknown.resolve_left
  · next hnew =>
    rw [Bool.or_eq_true, String.isEmpty_iff, not_or, Bool.not_eq_true] at hnew
    exact iff_of_true rfl hnew

theorem IndexedSet.reflects_run (operations : List Operation) :
    (IndexedSet.run operations).Reflects operations := by
  have hlists := ClassSet.ListsFirst.run operations
  rw [ClassSet.run_indexed]
  refine
    { agrees := rfl
      contains_eq := ClassSet.contains_indexed _
      insert_eq := fun token => congrArg Prod.fst (ClassSet.insert_indexed _ token)
      nodup := hlists.nodup
      filled := fun hempty => ((hlists.mem_iff "").1 hempty).2 rfl
      contains_iff := ?_
      size_eq := (List.toFinset_card_of_nodup hlists.nodup).symm
      lists := hlists
      insert_iff := IndexedSet.insert_fst _
      grows := ?_ }
  · intro token
    rw [ClassSet.contains_indexed]
    exact ClassSet.contains_eq_true
  · intro operation hkeeps
    rw [ClassSet.apply_indexed]
    exact ClassSet.prefix_apply _ hkeeps

/-- **A set of classes after any run of operations.** List and index are in step, the list holds what
was offered in the order of the first offers, and if no token was put in that holds a blank, the set
is read back from its text. -/
theorem indexedSet_after_run (operations : List Operation) :
    (IndexedSet.run operations).Reflects operations
      ∧ ((∀ token, .insert token ∈ operations → ∀ char ∈ token.toList, isBlank char = false) →
        ClassSet.ofList [(ClassSet.run operations).render] = ClassSet.run operations
          ∧ IndexedSet.ofList [(IndexedSet.run operations).render]
            = IndexedSet.run operations) := by
  refine ⟨IndexedSet.reflects_run operations, ?_⟩
  intro hinserted
  have hlists := ClassSet.ListsFirst.run operations
  have hwords : ∀ token ∈ (ClassSet.run operations).tokens, IsWord token := by
    intro token htoken
    obtain ⟨hoffered, hne⟩ := (hlists.mem_iff token).1 htoken
    exact ⟨hne, ClassSet.offered_noBlank hinserted token hoffered⟩
  have hback := ClassSet.ofList_render hlists.nodup hwords
  refine ⟨hback, ?_⟩
  have hrender : (IndexedSet.run operations).render = (ClassSet.run operations).render := by
    rw [ClassSet.run_indexed]
    rfl
  calc IndexedSet.ofList [(IndexedSet.run operations).render]
      = (ClassSet.ofList [(ClassSet.run operations).render]).indexed := by
        rw [hrender, ClassSet.ofList_indexed]
    _ = (ClassSet.run operations).indexed := by rw [hback]
    _ = IndexedSet.run operations := (ClassSet.run_indexed operations).symm

/-- The set is started anew once it holds a token, and known, empty and split tokens follow. -/
theorem indexedSet_after_run_started_anew :
    let operations : List Operation :=
      [.insert "z", .ofList ["b  a", "", "a b"], .insert "é", .insertAll "c\ta", .insert ""]
    (∀ token, .insert token ∈ operations → ∀ char ∈ token.toList, isBlank char = false)
      ∧ IndexedSet.ofList [(IndexedSet.run operations).render] = IndexedSet.run operations
      ∧ (IndexedSet.run operations).tokens = ["b", "a", "é", "c"] := by
  intro operations
  have hinserted : ∀ token, .insert token ∈ operations →
      ∀ char ∈ token.toList, isBlank char = false := by
    intro token htoken
    have hcases : token = "z" ∨ token = "é" ∨ token = "" := by simpa [operations] using htoken
    apply forall_noBlank
    rcases hcases with rfl | rfl | rfl <;> decide
  exact ⟨hinserted, ((indexedSet_after_run _).2 hinserted).2, by decide +kernel⟩

/-- A token with a blank is not read back. -/
example : IndexedSet.ofList [(IndexedSet.run [.insert "b a"]).render]
    = IndexedSet.run [.insert "b", .insert "a"] := by decide +kernel

end UtilityClasses
