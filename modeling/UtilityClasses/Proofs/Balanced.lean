import UtilityClasses.Proofs.Utf8
import UtilityClasses.Source.Code

/-!
# Balanced lists close at their own parenthesis

`Balanced` is the grammar of the text between two matching brackets: plain characters, lists,
blocks, quoted texts, comments and templates, nested to any depth. Reading such a text leaves the
reader where it was, inside the same frames with the same braces open, so the parenthesis behind it
is the one that closes the list.
-/

namespace UtilityClasses.Source

open UtilityClasses.Text

/-! ### The grammar -/

/-- The inside of a quoted text: no line end and no closing quote stands in it unescaped. -/
inductive QuotedText (quote : Char) : List Char → Prop where
  | nil : QuotedText quote []
  | plain {char : Char} {rest : List Char} (hquote : char ≠ quote) (hescape : char ≠ '\\')
      (hline : char ≠ '\n') (hrest : QuotedText quote rest) : QuotedText quote (char :: rest)
  | escaped (char : Char) {rest : List Char} (hrest : QuotedText quote rest) :
      QuotedText quote ('\\' :: char :: rest)

/-- What surrounds a balanced text: brackets, or the backquotes of a template. -/
inductive Layer where
  | code
  | template
  deriving DecidableEq, Repr

/-- Characters with a meaning of their own in code, the slash apart. -/
def isSpecial (char : Char) : Bool :=
  ['(', ')', '\x7b', '\x7d', '\'', '"', '\x60'].contains char

/-- Texts whose brackets, quotes, comments and templates are all closed. -/
inductive Balanced : Layer → List Char → Prop where
  | nil (layer : Layer) : Balanced layer []
  | plain {char : Char} {rest : List Char} (hplain : isSpecial char = false)
      (hslash : char = '/' → rest.head? ≠ some '/' ∧ rest.head? ≠ some '*')
      (hrest : Balanced .code rest) : Balanced .code (char :: rest)
  | list {items rest : List Char} (hitems : Balanced .code items) (hrest : Balanced .code rest) :
      Balanced .code ('(' :: (items ++ ')' :: rest))
  | block {items rest : List Char} (hitems : Balanced .code items) (hrest : Balanced .code rest) :
      Balanced .code ('\x7b' :: (items ++ '\x7d' :: rest))
  | quoted {quote : Char} {text rest : List Char} (hquote : quote = '\'' ∨ quote = '"')
      (htext : QuotedText quote text) (hrest : Balanced .code rest) :
      Balanced .code (quote :: (text ++ quote :: rest))
  | lineComment {text rest : List Char} (htext : '\n' ∉ text) (hrest : Balanced .code rest) :
      Balanced .code ('/' :: '/' :: (text ++ '\n' :: rest))
  | blockComment {text rest : List Char} (htext : ¬['*', '/'] <:+: text)
      (hrest : Balanced .code rest) :
      Balanced .code ('/' :: '*' :: (text ++ '*' :: '/' :: rest))
  | template {text rest : List Char} (htext : Balanced .template text)
      (hrest : Balanced .code rest) : Balanced .code ('\x60' :: (text ++ '\x60' :: rest))
  | character {char : Char} {rest : List Char} (hquote : char ≠ '\x60') (hescape : char ≠ '\\')
      (hdollar : char = '$' → rest.head? ≠ some '\x7b') (hrest : Balanced .template rest) :
      Balanced .template (char :: rest)
  | escaped (char : Char) {rest : List Char} (hrest : Balanced .template rest) :
      Balanced .template ('\\' :: char :: rest)
  | interpolation {items rest : List Char} (hitems : Balanced .code items)
      (hrest : Balanced .template rest) :
      Balanced .template ('$' :: '\x7b' :: (items ++ '\x7d' :: rest))

/-! ### Reading that closes no list -/

/-- Reading `text` before `following` leads from one state to another, and inside a list no
parenthesis of the text closes it. -/
def Passes (state : ScanState) (text following : List Char) (next : ScanState) : Prop :=
  ∀ depth, closeAfter state (depth + 1) (text ++ following)
    = (closeAfter next (depth + 1) following).map (· + text.length)

variable {state middle next : ScanState} {text left right following : List Char} {char : Char}

theorem Passes.nil (state : ScanState) (following : List Char) :
    Passes state [] following state := by
  intro depth
  simp

theorem Passes.append (hleft : Passes state left (right ++ following) middle)
    (hright : Passes middle right following next) :
    Passes state (left ++ right) following next := by
  intro depth
  rw [List.append_assoc, hleft depth, hright depth, Option.map_map, List.length_append]
  congr 1
  funext length
  simp only [Function.comp_apply]
  omega

/-- A character of the code that is no parenthesis is passed by one step. -/
theorem Passes.visible (hstep : state.advance char following.head? = (next, true))
    (hopen : char ≠ '(') (hclose : char ≠ ')') : Passes state [char] following next := by
  intro depth
  simp [closeAfter, hstep, hopen, hclose]

/-- So is any character that is not code. -/
theorem Passes.hidden (hstep : state.advance char following.head? = (next, false)) :
    Passes state [char] following next := by
  intro depth
  simp [closeAfter, hstep]

theorem Passes.visibleCons (middle : ScanState)
    (hstep : state.advance char (text ++ following).head? = (middle, true))
    (hopen : char ≠ '(') (hclose : char ≠ ')') (htext : Passes middle text following next) :
    Passes state (char :: text) following next :=
  Passes.append (Passes.visible hstep hopen hclose) htext

theorem Passes.hiddenCons (middle : ScanState)
    (hstep : state.advance char (text ++ following).head? = (middle, false))
    (htext : Passes middle text following next) : Passes state (char :: text) following next :=
  Passes.append (Passes.hidden hstep) htext

/-! ### One character

The states between two parts of a balanced text are those of plain code and of template text. -/

abbrev ScanState.inCode (braces : Nat) (outer : List Frame) : ScanState :=
  ⟨.code braces :: outer, .plain, false⟩

abbrev ScanState.inTemplate (outer : List Frame) : ScanState :=
  ⟨.template :: outer, .plain, false⟩

variable {braces : Nat} {outer : List Frame}

theorem advancePlain_of_plain {next? : Option Char} (hplain : isSpecial char = false)
    (hslash : char = '/' → next? ≠ some '/' ∧ next? ≠ some '*') :
    ScanState.advancePlain braces outer char next? = (.inCode braces outer, true) := by
  unfold ScanState.advancePlain
  split
  case h_4 =>
    obtain ⟨hline, hblock⟩ := hslash rfl
    split
    · exact absurd rfl hline
    · exact absurd rfl hblock
    · rfl
  case h_7 => rfl
  all_goals exact absurd hplain (by decide)

theorem passes_plain (hplain : isSpecial char = false)
    (hslash : char = '/' → following.head? ≠ some '/' ∧ following.head? ≠ some '*') :
    Passes (.inCode braces outer) [char] following (.inCode braces outer) := by
  refine Passes.visible (advancePlain_of_plain hplain hslash) ?_ ?_
  · rintro rfl
    exact absurd hplain (by decide)
  · rintro rfl
    exact absurd hplain (by decide)

theorem passes_swallowed (frames : List Frame) (region : Region) (char : Char)
    (following : List Char) :
    Passes ⟨frames, region, true⟩ [char] following ⟨frames, region, false⟩ :=
  Passes.hidden rfl

theorem advance_inTemplate {next? : Option Char} (hquote : char ≠ '\x60') (hescape : char ≠ '\\')
    (hdollar : char = '$' → next? ≠ some '\x7b') :
    ScanState.advance (.inTemplate outer) char next? = (.inTemplate outer, false) := by
  have hstep : ScanState.advanceTemplate outer char next? = .inTemplate outer := by
    unfold ScanState.advanceTemplate
    split
    · exact absurd rfl hescape
    · exact absurd rfl hquote
    · rw [if_neg (hdollar rfl)]
    · rfl
  change (ScanState.advanceTemplate outer char next?, false) = _
  rw [hstep]

theorem passes_character (hquote : char ≠ '\x60') (hescape : char ≠ '\\')
    (hdollar : char = '$' → following.head? ≠ some '\x7b') :
    Passes (.inTemplate outer) [char] following (.inTemplate outer) :=
  Passes.hidden (advance_inTemplate hquote hescape hdollar)

/-! ### Quotes and comments -/

variable {quote : Char}

theorem passes_quotedText (htext : QuotedText quote text) :
    Passes ⟨.code braces :: outer, .quoted quote, false⟩ text following
      ⟨.code braces :: outer, .quoted quote, false⟩ := by
  induction htext generalizing following with
  | nil => exact Passes.nil _ _
  | plain hquote hescape hline _ ih =>
      refine Passes.hiddenCons _ ?_ ih
      simp [ScanState.advance, ScanState.advanceRegion, hquote, hescape, hline]
  | escaped char _ ih =>
      refine Passes.hiddenCons ⟨.code braces :: outer, .quoted quote, true⟩ ?_
        (Passes.append (passes_swallowed _ _ char _) ih)
      simp [ScanState.advance, ScanState.advanceRegion]

theorem passes_lineText (htext : '\n' ∉ text) :
    Passes ⟨.code braces :: outer, .lineComment, false⟩ text following
      ⟨.code braces :: outer, .lineComment, false⟩ := by
  induction text with
  | nil => exact Passes.nil _ _
  | cons char rest ih =>
      rw [List.mem_cons, not_or] at htext
      refine Passes.hiddenCons _ ?_ (ih htext.2)
      simp [ScanState.advance, ScanState.advanceRegion, Ne.symm htext.1]

/-- The star that closes a block comment is not found before it. -/
theorem passes_blockText (htext : ¬['*', '/'] <:+: text) :
    Passes ⟨.code braces :: outer, .blockComment, false⟩ text ('*' :: following)
      ⟨.code braces :: outer, .blockComment, false⟩ := by
  induction text with
  | nil => exact Passes.nil _ _
  | cons char rest ih =>
      have hrest : ¬['*', '/'] <:+: rest :=
        fun hfound => htext (hfound.trans (List.suffix_cons char rest).isInfix)
      have hstay : ¬(char = '*' ∧ (rest ++ '*' :: following).head? = some '/') := by
        rintro ⟨rfl, hslash⟩
        cases rest with
        | nil => simp at hslash
        | cons second rest =>
            obtain rfl : second = '/' := by simpa using hslash
            exact htext ⟨[], rest, rfl⟩
      refine Passes.hiddenCons _ ?_ (ih hrest)
      simp only [ScanState.advance, Bool.false_eq_true, if_false, ScanState.advanceRegion,
        Bool.and_eq_true, decide_eq_true_eq, if_neg hstay]

/-! Each part of the code below is passed together with the text behind it. -/

variable {rest : List Char}
  (hrest : Passes (.inCode braces outer) rest following (.inCode braces outer))

include hrest

theorem passes_quoted (hquote : quote = '\'' ∨ quote = '"') (htext : QuotedText quote text) :
    Passes (.inCode braces outer) (quote :: (text ++ quote :: rest)) following
      (.inCode braces outer) := by
  refine Passes.hiddenCons ⟨.code braces :: outer, .quoted quote, false⟩ ?_
    (Passes.append (passes_quotedText htext) (Passes.hiddenCons _ ?_ hrest))
  · rcases hquote with rfl | rfl <;> rfl
  · rcases hquote with rfl | rfl <;> rfl

theorem passes_lineComment (htext : '\n' ∉ text) :
    Passes (.inCode braces outer) ('/' :: '/' :: (text ++ '\n' :: rest)) following
      (.inCode braces outer) := by
  refine Passes.hiddenCons ⟨.code braces :: outer, .lineComment, false⟩ rfl
    (Passes.hiddenCons ⟨.code braces :: outer, .lineComment, false⟩ rfl ?_)
  exact Passes.append (passes_lineText htext)
    (Passes.visibleCons _ rfl (by decide) (by decide) hrest)

theorem passes_blockComment (htext : ¬['*', '/'] <:+: text) :
    Passes (.inCode braces outer) ('/' :: '*' :: (text ++ '*' :: '/' :: rest)) following
      (.inCode braces outer) := by
  refine Passes.hiddenCons ⟨.code braces :: outer, .blockComment, true⟩ rfl
    (Passes.hiddenCons ⟨.code braces :: outer, .blockComment, false⟩ rfl ?_)
  refine Passes.append (passes_blockText htext) ?_
  exact Passes.hiddenCons ⟨.code braces :: outer, .plain, true⟩ rfl
    (Passes.hiddenCons _ rfl hrest)

theorem passes_block (htext : Passes (.inCode (braces + 1) outer) text
      ('\x7d' :: (rest ++ following)) (.inCode (braces + 1) outer)) :
    Passes (.inCode braces outer) ('\x7b' :: (text ++ '\x7d' :: rest)) following
      (.inCode braces outer) :=
  Passes.visibleCons _ rfl (by decide) (by decide)
    (Passes.append htext (Passes.visibleCons _ rfl (by decide) (by decide) hrest))

theorem passes_template (htext : Passes (.inTemplate (.code braces :: outer)) text
      ('\x60' :: (rest ++ following)) (.inTemplate (.code braces :: outer))) :
    Passes (.inCode braces outer) ('\x60' :: (text ++ '\x60' :: rest)) following
      (.inCode braces outer) :=
  Passes.hiddenCons _ rfl (Passes.append htext (Passes.hiddenCons _ rfl hrest))

/-- Inside a list, a list of its own is passed as a whole: it opens and closes one parenthesis. -/
theorem passes_list (htext : Passes (.inCode braces outer) text (')' :: (rest ++ following))
      (.inCode braces outer)) :
    Passes (.inCode braces outer) ('(' :: (text ++ ')' :: rest)) following
      (.inCode braces outer) := by
  intro depth
  have hopen (after : List Char) : closeAfter (.inCode braces outer) (depth + 1) ('(' :: after)
      = (closeAfter (.inCode braces outer) (depth + 2) after).map (· + 1) := rfl
  have hclose (after : List Char) : closeAfter (.inCode braces outer) (depth + 2) (')' :: after)
      = (closeAfter (.inCode braces outer) (depth + 1) after).map (· + 1) := by
    simp [closeAfter, ScanState.advance, ScanState.advancePlain]
  rw [List.cons_append, List.append_assoc, List.cons_append, hopen, htext (depth + 1), hclose,
    hrest depth, Option.map_map, Option.map_map, Option.map_map]
  congr 1
  funext length
  simp only [Function.comp_apply, List.length_cons, List.length_append]
  omega

omit hrest

theorem passes_interpolation
    (hrest : Passes (.inTemplate outer) rest following (.inTemplate outer))
    (htext : Passes (.inCode 0 (.template :: outer)) text ('\x7d' :: (rest ++ following))
      (.inCode 0 (.template :: outer))) :
    Passes (.inTemplate outer) ('$' :: '\x7b' :: (text ++ '\x7d' :: rest)) following
      (.inTemplate outer) :=
  Passes.hiddenCons ⟨.code 0 :: .template :: outer, .plain, true⟩ rfl
    (Passes.hiddenCons _ rfl (Passes.append htext (Passes.hiddenCons _ rfl hrest)))

/-! ### Balanced texts -/

def Layer.frame (braces : Nat) : Layer → Frame
  | .code => .code braces
  | .template => .template

/-- What may not stand behind a text of a layer, because it would change how its last character
reads. -/
def Layer.EndsBefore (following : List Char) : Layer → Prop
  | .code => following.head? ≠ some '/' ∧ following.head? ≠ some '*'
  | .template => following.head? ≠ some '\x7b'

theorem endsBefore_bracket {bracket : Char} (hbracket : bracket = ')' ∨ bracket = '\x7d')
    (after : List Char) : Layer.code.EndsBefore (bracket :: after) := by
  rcases hbracket with rfl | rfl <;> simp [Layer.EndsBefore]

theorem endsBefore_backquote (after : List Char) : Layer.template.EndsBefore ('\x60' :: after) := by
  simp [Layer.EndsBefore]

theorem head?_append_ne {unwanted : Char} (hleft : left.head? ≠ some unwanted)
    (hright : right.head? ≠ some unwanted) : (left ++ right).head? ≠ some unwanted := by
  cases left with
  | nil => exact hright
  | cons first rest => simpa using hleft

/-- **Balanced texts are passed as a whole.** The reader is left in the frames it came with, with as
many braces open and inside as many lists. -/
theorem Balanced.passes {layer : Layer} (hbalanced : Balanced layer text) (braces : Nat)
    (outer : List Frame) (hend : layer.EndsBefore following) :
    Passes ⟨layer.frame braces :: outer, .plain, false⟩ text following
      ⟨layer.frame braces :: outer, .plain, false⟩ := by
  -- What follows is kept general: inside brackets it begins with the closing one.
  induction hbalanced generalizing braces outer following with
  | nil layer => exact Passes.nil _ _
  | plain hplain hslash _ ih =>
      refine Passes.append (passes_plain hplain fun heq => ?_) (ih braces outer hend)
      exact ⟨head?_append_ne (hslash heq).1 hend.1, head?_append_ne (hslash heq).2 hend.2⟩
  | list _ _ ihItems ihRest =>
      have hitems := fun after => ihItems braces outer (endsBefore_bracket (Or.inl rfl) after)
      exact passes_list (ihRest braces outer hend) (hitems _)
  | block _ _ ihItems ihRest =>
      have hitems := fun after =>
        ihItems (braces + 1) outer (endsBefore_bracket (Or.inr rfl) after)
      exact passes_block (ihRest braces outer hend) (hitems _)
  | quoted hquote htext _ ihRest => exact passes_quoted (ihRest braces outer hend) hquote htext
  | lineComment htext _ ihRest => exact passes_lineComment (ihRest braces outer hend) htext
  | blockComment htext _ ihRest => exact passes_blockComment (ihRest braces outer hend) htext
  | template _ _ ihText ihRest =>
      have htext := fun after =>
        ihText braces (.code braces :: outer) (endsBefore_backquote after)
      exact passes_template (ihRest braces outer hend) (htext _)
  | character hquote hescape hdollar _ ih =>
      refine Passes.append (passes_character hquote hescape fun heq => ?_) (ih braces outer hend)
      exact head?_append_ne (hdollar heq) hend
  | escaped char _ ih =>
      exact Passes.hiddenCons ⟨.template :: outer, .plain, true⟩ rfl
        (Passes.append (passes_swallowed _ _ char _) (ih braces outer hend))
  | interpolation _ _ ihItems ihRest =>
      have hitems := fun after =>
        ihItems 0 (.template :: outer) (endsBefore_bracket (Or.inr rfl) after)
      exact passes_interpolation (ihRest braces outer hend) (hitems _)

theorem take_list (items after : List Char) :
    ('(' :: (items ++ ')' :: after)).take (items.length + 2) = '(' :: (items ++ [')']) := by
  simp [List.take_append, List.take_of_length_le]

/-- The list around balanced items is the whole of what its first parenthesis opens. -/
theorem listLength_of_balanced {items : List Char} (hitems : Balanced .code items)
    (after : List Char) :
    listLength ('(' :: (items ++ ')' :: after)) = some (items.length + 2) := by
  have hopen : listLength ('(' :: (items ++ ')' :: after))
      = (closeAfter .start 1 (items ++ ')' :: after)).map (· + 1) := rfl
  have hclose : closeAfter .start 1 (')' :: after) = some 1 := by
    simp [closeAfter, ScanState.advance, ScanState.advancePlain, ScanState.start]
  have hpasses : Passes .start items (')' :: after) .start :=
    hitems.passes 0 [] (endsBefore_bracket (Or.inl rfl) after)
  rw [hopen, hpasses 0, hclose]
  simp only [Option.map_some, Option.some.injEq]
  omega

/-- Where the closing parenthesis is missing, nothing else closes the list. -/
theorem listLength_of_unclosed {items : List Char} (hitems : Balanced .code items) :
    listLength ('(' :: items) = none := by
  have hopen : listLength ('(' :: items) = (closeAfter .start 1 items).map (· + 1) := rfl
  have hend : Layer.code.EndsBefore [] := by simp [Layer.EndsBefore]
  have hpasses : Passes .start items [] .start := hitems.passes 0 [] hend
  have hnever := hpasses 0
  rw [List.append_nil] at hnever
  rw [hopen, hnever, closeAfter]
  rfl

/-- **A well-formed list closes at its own parenthesis**, whatever text surrounds it. -/
theorem closingParen_balanced (before after : String) {items : List Char}
    (hitems : Balanced .code items) :
    closingParen (before ++ "(" ++ String.ofList items ++ ")" ++ after) before.utf8ByteSize
      = some (before.utf8ByteSize + ("(" ++ String.ofList items ++ ")").utf8ByteSize) := by
  have htext : (before ++ "(" ++ String.ofList items ++ ")" ++ after).toList
      = before.toList ++ '(' :: (items ++ ')' :: after.toList) := by simp
  have hlist : ("(" ++ String.ofList items ++ ")").toList = '(' :: (items ++ [')']) := by simp
  rw [closingParen, htext, ← byteLength_toList before, dropBytes_byteLength]
  simp only [listLength_of_balanced hitems, Option.map_some, take_list, Nat.add_zero,
    ← byteLength_toList, hlist]

/-- A quoted parenthesis behind an escaped quote, a list in a template and a parenthesis in a
comment are all inside the list. -/
theorem closingParen_nested_items :
    let items := ['x', '\'', '\\', '\'', ')', '\'', '\x60', '$', '$', '\x7b', '(', 'b', ')',
      '\x7d', '\x60', '/', '*', ')', '*', '/']
    Balanced .code items
      ∧ closingParen ("tc" ++ "(" ++ String.ofList items ++ ")" ++ " + '") 2 = some 24 := by
  intro items
  have hletter : Balanced .code ['b'] := .plain (by decide) (by decide) (.nil .code)
  have htemplate := Balanced.interpolation (Balanced.list hletter (.nil .code)) (.nil .template)
  have hdollar : Balanced .template ['$', '$', '\x7b', '(', 'b', ')', '\x7d'] :=
    .character (by decide) (by decide) (by decide) htemplate
  have hparen : ¬['*', '/'] <:+: [')'] := by decide
  have hcomment := Balanced.blockComment hparen (.nil .code)
  have hquoted : QuotedText '\'' [')'] := .plain (by decide) (by decide) (by decide) .nil
  have hitems := Balanced.quoted (Or.inl rfl) (.escaped '\'' hquoted) (.template hdollar hcomment)
  have hall : Balanced .code items :=
    Balanced.plain (by decide : isSpecial 'x' = false) (by decide) hitems
  exact ⟨hall, closingParen_balanced "tc" " + '" hall⟩

end UtilityClasses.Source
