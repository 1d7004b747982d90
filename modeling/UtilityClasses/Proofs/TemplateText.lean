import UtilityClasses.GeneratedModule
import UtilityClasses.Proofs.Balanced
import UtilityClasses.Proofs.CodePositions
import UtilityClasses.Proofs.Collected
import UtilityClasses.Proofs.Occurrences
import UtilityClasses.Proofs.Quotation

/-!
# The generated module spells the class string

Between the backquotes of a generated module stands template text: every backquote, every backslash
and every dollar sign before a brace is escaped. Scripts read it as one whole template that spells
the class string, and the reader of code finds code in front of the template and behind it only.
-/

namespace UtilityClasses

open Text

/-! ### Template text without interpolations -/

/-- Text that neither ends a template nor begins an interpolation, and that leaves no escape open. -/
inductive TemplateText : List Char → Prop where
  | nil : TemplateText []
  | plain {char : Char} {rest : List Char} (hquote : char ≠ '\x60') (hescape : char ≠ '\\')
      (hdollar : char = '$' → rest.head? ≠ some '\x7b') (hrest : TemplateText rest) :
      TemplateText (char :: rest)
  | escaped (char : Char) {rest : List Char} (hrest : TemplateText rest) :
      TemplateText ('\\' :: char :: rest)

/-- What an escaped text begins with, if it is no backslash, the text itself begins with. -/
theorem head?_escapeTemplate {first : Char} {text : List Char} (hfirst : '\\' ≠ first)
    (hhead : (escapeTemplate text).head? = some first) : text.head? = some first := by
  fun_cases escapeTemplate text with
  | case1 => exact hhead
  | case2 rest => exact absurd hhead (by simp [escapeTemplate, hfirst])
  | case3 rest => exact absurd hhead (by simp [escapeTemplate, hfirst])
  | case4 rest => exact absurd hhead (by simp [escapeTemplate, hfirst])
  | case5 char rest hescape hquote hdollar =>
      rw [escapeTemplate] at hhead
      · exact hhead
      · exact hescape
      · exact hquote
      · exact hdollar

theorem escapeTemplate_dollar {rest : List Char}
    (hdollar : ∀ after, rest = '\x7b' :: after → False) :
    (escapeTemplate rest).head? ≠ some '\x7b' := by
  intro hhead
  obtain ⟨after, hafter⟩ := List.head?_eq_some_iff.1 (head?_escapeTemplate (by decide) hhead)
  exact hdollar after hafter

theorem templateText_escapeTemplate (text : List Char) : TemplateText (escapeTemplate text) := by
  fun_induction escapeTemplate text with
  | case1 => exact .nil
  | case2 rest ih => exact .escaped '\\' ih
  | case3 rest ih => exact .escaped '\x60' ih
  | case4 rest ih =>
      exact .escaped '$' (.plain (by decide) (by decide) (fun heq => absurd heq (by decide)) ih)
  | case5 char rest hescape hquote hdollar ih =>
      exact .plain hquote hescape (fun heq => escapeTemplate_dollar (hdollar · heq)) ih

/-! ### Scripts read it back -/

section

open Script

variable {rest after : List Char} {char : Char} {read : List Nat}

theorem readTemplate_escaped (hescape : readEscape true (char :: rest) = (.ok [char.toNat], rest))
    (fuel : Nat) :
    readTemplate (fuel + 1) read none ('\\' :: char :: rest)
      = readTemplate fuel (char.toNat :: read) none rest := by
  rw [readTemplate, hescape]
  rfl

theorem readTemplate_plain (hquote : char ≠ '\x60') (hescape : char ≠ '\\') (hreturn : char ≠ '\r')
    (hdollar : char = '$' → rest.head? ≠ some '\x7b') (fuel : Nat) :
    readTemplate (fuel + 1) read none (char :: rest)
      = readTemplate fuel (char.toNat :: read) none rest := by
  rw [readTemplate]
  · exact hquote
  · rintro after rfl rfl
    exact hdollar rfl rfl
  · exact hescape
  · exact fun _ heq _ => hreturn heq
  · exact hreturn

theorem readTemplate_closed (fuel : Nat) :
    readTemplate (fuel + 1) read none ('\x60' :: after) = (.ok ⟨.units read.reverse, true⟩, after) :=
  rfl

/-- A carriage return in front of a line feed adds nothing. -/
theorem readTemplate_return (fuel : Nat) (read : List Nat) (rest : List Char) :
    readTemplate (fuel + 1) read none ('\r' :: '\n' :: rest)
      = readTemplate (fuel + 1) read none ('\n' :: rest) := by
  have hdollar (heq : '\n' = '$') : rest.head? ≠ some '\x7b' := absurd heq (by decide)
  rw [readTemplate, readTemplate_plain (by decide) (by decide) (by decide) hdollar]
  rfl

theorem readTemplate_return_alone (hrest : rest.head? ≠ some '\n') (fuel : Nat) :
    readTemplate (fuel + 1) read none ('\r' :: rest)
      = readTemplate fuel ('\n'.toNat :: read) none rest := by
  rw [readTemplate]
  · rfl
  · rintro after rfl
    exact hrest rfl

/-- What a template spells that holds a text: each line end spells a line feed. -/
def lineFeeds : List Char → List Char
  | [] => []
  | '\r' :: '\n' :: rest => '\n' :: lineFeeds rest
  | '\r' :: rest => '\n' :: lineFeeds rest
  | char :: rest => char :: lineFeeds rest

theorem lineFeeds_return (rest : List Char) :
    lineFeeds ('\r' :: '\n' :: rest) = lineFeeds ('\n' :: rest) := rfl

theorem lineFeeds_return_alone (hrest : rest.head? ≠ some '\n') :
    lineFeeds ('\r' :: rest) = '\n' :: lineFeeds rest := by
  rw [lineFeeds]
  rintro after rfl
  exact hrest rfl

theorem lineFeeds_cons (hreturn : char ≠ '\r') (rest : List Char) :
    lineFeeds (char :: rest) = char :: lineFeeds rest := by
  rw [lineFeeds]
  · exact fun _ heq _ => hreturn heq
  · exact hreturn

theorem lineFeeds_eq {text : List Char} (hreturn : '\r' ∉ text) : lineFeeds text = text := by
  induction text with
  | nil => rfl
  | cons char rest ih =>
      rw [lineFeeds_cons (List.ne_of_not_mem_cons hreturn).symm,
        ih (List.not_mem_of_not_mem_cons hreturn)]

/-- **An escaped text is read back up to the backquote behind it**, with line feeds for line ends. -/
theorem readTemplate_escapeTemplate {text : List Char} {fuel : Nat}
    (hfuel : (escapeTemplate text).length < fuel) (read : List Nat) (after : List Char) :
    readTemplate fuel read none (escapeTemplate text ++ '\x60' :: after)
      = (.ok ⟨.units (read.reverse ++ (lineFeeds text).map Char.toNat), true⟩, after) := by
  fun_induction escapeTemplate text generalizing fuel read with
  | case1 =>
      obtain ⟨fuel, rfl⟩ := Nat.exists_eq_succ_of_ne_zero (Nat.ne_zero_of_lt hfuel)
      rw [List.nil_append, readTemplate_closed, lineFeeds, List.map_nil, List.append_nil]
  | case2 rest ih =>
      obtain ⟨fuel, rfl⟩ := Nat.exists_eq_succ_of_ne_zero (Nat.ne_zero_of_lt hfuel)
      simp only [List.length_cons] at hfuel
      rw [List.cons_append, List.cons_append, readTemplate_escaped rfl, ih (by omega),
        lineFeeds_cons (by decide)]
      simp
  | case3 rest ih =>
      obtain ⟨fuel, rfl⟩ := Nat.exists_eq_succ_of_ne_zero (Nat.ne_zero_of_lt hfuel)
      simp only [List.length_cons] at hfuel
      rw [List.cons_append, List.cons_append, readTemplate_escaped rfl, ih (by omega),
        lineFeeds_cons (by decide)]
      simp
  | case4 rest ih =>
      -- The dollar sign is read as an escape, and the brace behind it as any other character.
      obtain ⟨fuel, rfl⟩ := Nat.exists_eq_add_of_lt hfuel
      have hsteps : (escapeTemplate rest).length + 1 + 1 + 1 + fuel + 1
          = (escapeTemplate rest).length + 1 + 1 + fuel + 1 + 1 := by omega
      have hbrace (heq : '\x7b' = '$') :
          (escapeTemplate rest ++ '\x60' :: after).head? ≠ some '\x7b' := absurd heq (by decide)
      simp only [List.length_cons]
      rw [List.cons_append, List.cons_append, List.cons_append, hsteps, readTemplate_escaped rfl,
        readTemplate_plain (by decide) (by decide) (by decide) hbrace, ih (by omega),
        lineFeeds_cons (by decide), lineFeeds_cons (by decide)]
      simp
  | case5 char rest hescape hquote hdollar ih =>
      obtain ⟨fuel, rfl⟩ := Nat.exists_eq_succ_of_ne_zero (Nat.ne_zero_of_lt hfuel)
      simp only [List.length_cons] at hfuel
      have hbehind (heq : char = '$') :
          (escapeTemplate rest ++ '\x60' :: after).head? ≠ some '\x7b' :=
        Source.head?_append_ne (escapeTemplate_dollar (hdollar · heq)) (by simp)
      rw [List.cons_append]
      by_cases hreturn : char = '\r'
      · subst hreturn
        by_cases hline : rest.head? = some '\n'
        · obtain ⟨below, rfl⟩ := List.head?_eq_some_iff.1 hline
          have hbelow : escapeTemplate ('\n' :: below) = '\n' :: escapeTemplate below := rfl
          rw [hbelow, List.cons_append, readTemplate_return, ← List.cons_append, ← hbelow,
            ih (by omega), lineFeeds_return]
        · have halone : (escapeTemplate rest ++ '\x60' :: after).head? ≠ some '\n' :=
            Source.head?_append_ne (mt (head?_escapeTemplate (by decide)) hline) (by simp)
          rw [readTemplate_return_alone halone, ih (by omega), lineFeeds_return_alone hline]
          simp
      · rw [readTemplate_plain hquote hescape hreturn hbehind, ih (by omega),
          lineFeeds_cons hreturn]
        simp

/-- What a template without interpolations spells that a script begins with, and the script behind
it. -/
def templateAt? (script : List Char) : Option (String × List Char) :=
  match readToken false script with
  | (.template ⟨.units units, true⟩, rest) => (spellUnits units).map fun text => (text, rest)
  | _ => none

theorem readToken_escapeTemplate (text after : List Char) :
    readToken false ('\x60' :: (escapeTemplate text ++ '\x60' :: after))
      = (.template ⟨.units ((lineFeeds text).map Char.toNat), true⟩, after) := by
  have hfuel : (escapeTemplate text).length
      < (escapeTemplate text ++ '\x60' :: after).length + 1 := by
    rw [List.length_append]
    omega
  rw [readToken, if_neg (by decide), if_pos rfl, readTemplate_escapeTemplate hfuel]
  rfl

theorem templateAt?_escapeTemplate {text : String} (hreturn : '\r' ∉ text.toList)
    (after : List Char) :
    templateAt? ('\x60' :: (escapeTemplate text.toList ++ '\x60' :: after)) = some (text, after) := by
  rw [templateAt?, readToken_escapeTemplate, lineFeeds_eq hreturn]
  simp [spellUnits, joinSurrogates_codes]

end

/-! ### Code in front of the template and behind it -/

namespace Source

variable {braces : Nat} {outer : List Frame} {text following : List Char}

/-- Characters without a meaning of their own leave the reader in the code where it is. -/
theorem classify_plain (hplain : ∀ char ∈ text, isSpecial char = false ∧ char ≠ '/') :
    classify (.inCode braces outer) (text ++ following)
      = text.map (·, true) ++ classify (.inCode braces outer) following := by
  induction text with
  | nil => rfl
  | cons char rest ih =>
      obtain ⟨hspecial, hslash⟩ := hplain char List.mem_cons_self
      have hstep : ScanState.advance (.inCode braces outer) char (rest ++ following).head?
          = (.inCode braces outer, true) :=
        advancePlain_of_plain hspecial fun heq => absurd heq hslash
      rw [List.cons_append, classify, hstep, List.map_cons, List.cons_append,
        ← ih fun other hother => hplain other (List.mem_cons_of_mem _ hother)]

/-- Template text is passed up to the backquote behind it, and none of it is code. -/
theorem classify_templateText (htext : TemplateText text) :
    classify (.inTemplate outer) (text ++ '\x60' :: following)
      = text.map (·, false) ++ classify (.inTemplate outer) ('\x60' :: following) := by
  induction htext with
  | nil => rfl
  | @plain char rest hquote hescape hdollar _ ih =>
      have hbehind (heq : char = '$') : (rest ++ '\x60' :: following).head? ≠ some '\x7b' :=
        head?_append_ne (hdollar heq) (by simp)
      have hstep : ScanState.advance (.inTemplate outer) char (rest ++ '\x60' :: following).head?
          = (.inTemplate outer, false) := advance_inTemplate hquote hescape hbehind
      rw [List.cons_append, classify, hstep, List.map_cons, List.cons_append, ← ih]
  | escaped char _ ih =>
      rw [List.cons_append, List.cons_append, List.map_cons, List.map_cons, List.cons_append,
        List.cons_append, ← ih]
      rfl

end Source

/-! ### The generated module -/

def moduleHead (constName : String) : String := "export const " ++ constName ++ " = "

theorem toList_renderModule (constName classes : String) :
    (renderModule constName classes).toList
      = (moduleHead constName).toList
        ++ '\x60' :: (escapeTemplate classes.toList ++ '\x60' :: ['\n']) := by
  -- The texts are kept general while they are taken apart: literals make the rewriting slow.
  have hjoin (start middle finish : String) (body : List Char) :
      (start ++ constName ++ middle ++ String.ofList body ++ finish).toList
        = start.toList ++ (constName.toList ++ (middle.toList ++ (body ++ finish.toList))) := by
    simp only [String.toList_append, String.toList_ofList, List.append_assoc]
  have hhead (start middle : String) : (start ++ constName ++ middle).toList
      = start.toList ++ (constName.toList ++ middle.toList) := by
    simp only [String.toList_append, List.append_assoc]
  have hopen : " = \x60".toList = " = ".toList ++ ['\x60'] := by decide
  have hclose : "\x60\n".toList = ['\x60', '\n'] := by decide
  have hmodule := hjoin "export const " " = \x60" "\x60\n" (escapeTemplate classes.toList)
  rw [hopen, hclose] at hmodule
  rw [moduleHead, hhead, List.append_assoc, List.append_assoc]
  exact hmodule

/-- No character of a name means anything to the reader of code. -/
theorem namePart_plain {char : Char} (hpart : isNamePart char = true) :
    Source.isSpecial char = false ∧ char ≠ '/' := by
  refine ⟨?_, ?_⟩
  · rw [Source.isSpecial, List.contains_eq_mem, decide_eq_false_iff_not]
    intro hspecial
    simp only [List.mem_cons, List.not_mem_nil, or_false] at hspecial
    rcases hspecial with rfl | rfl | rfl | rfl | rfl | rfl | rfl <;>
      exact absurd hpart (by decide)
  · rintro rfl
    exact absurd hpart (by decide)

theorem moduleHead_plain {constName : String} (hname : isIdentifier constName = true) :
    ∀ char ∈ (moduleHead constName).toList, Source.isSpecial char = false ∧ char ≠ '/' := by
  have hfixed : ∀ part ∈ ["export const ", " = "],
      (part.toList.all fun char => !Source.isSpecial char && char != '/') = true := by
    decide
  have hplain : ∀ part ∈ ["export const ", " = "], ∀ char ∈ part.toList,
      Source.isSpecial char = false ∧ char ≠ '/' := fun part hpart char hchar => by
    simpa using List.all_eq_true.1 (hfixed part hpart) char hchar
  intro char hchar
  rw [moduleHead, String.toList_append, String.toList_append, List.mem_append, List.mem_append]
    at hchar
  rcases hchar with (hchar | hchar) | hchar
  · exact hplain _ (List.mem_cons_self ..) char hchar
  · exact namePart_plain (Source.isNamePart_of_isIdentifier hname char hchar)
  · exact hplain _ (List.mem_cons_of_mem _ (List.mem_cons_self ..)) char hchar

/-- **Code is found in front of the template and behind it**, and none in between. -/
theorem codeBytes_renderModule {constName : String} (hname : isIdentifier constName = true)
    (classes : String) :
    Source.codeBytes (renderModule constName classes) 0
      = (List.range (moduleHead constName).utf8ByteSize).zip (bytes (moduleHead constName).toList)
        ++ [((renderModule constName classes).utf8ByteSize - 1, '\n'.toUInt8)] := by
  have hlist := toList_renderModule constName classes
  have hsize : (renderModule constName classes).utf8ByteSize - 1
      = byteLength (moduleHead constName).toList + 1 + byteLength (escapeTemplate classes.toList)
        + 1 := by
    have hquote : '\x60'.utf8Size = 1 := rfl
    have hline : '\n'.utf8Size = 1 := rfl
    rw [← byteLength_toList, hlist]
    simp only [byteLength_append, byteLength_cons, byteLength_nil, hquote, hline]
    omega
  have hread : Source.classify .start (renderModule constName classes).toList
      = (moduleHead constName).toList.map (·, true)
        ++ ('\x60', false) :: ((escapeTemplate classes.toList).map (·, false)
          ++ [('\x60', false), ('\n', true)]) := by
    have htemplate : Source.classify (.inTemplate [.code 0])
        (escapeTemplate classes.toList ++ '\x60' :: ['\n']) = _ :=
      Source.classify_templateText (templateText_escapeTemplate classes.toList)
    have hopen (following : List Char) : Source.classify .start ('\x60' :: following)
        = ('\x60', false) :: Source.classify (.inTemplate [.code 0]) following := rfl
    have hclose : Source.classify (.inTemplate [.code 0]) ['\x60', '\n']
        = [('\x60', false), ('\n', true)] := rfl
    rw [hlist, Source.ScanState.start, Source.classify_plain (moduleHead_plain hname)]
    refine congrArg _ ?_
    change Source.classify .start _ = _
    rw [hopen, htemplate, hclose]
  have hopening (position : Nat) (following : List (Char × Bool)) :
      Source.codeBytesFrom position (('\x60', false) :: following)
        = Source.codeBytesFrom (position + 1) following := rfl
  have hend (position : Nat) : Source.codeBytesFrom position [('\x60', false), ('\n', true)]
      = [(position + 1, '\n'.toUInt8)] := rfl
  have hstart : Source.codeBytes (renderModule constName classes) 0
      = Source.codeBytesFrom 0 (Source.classify .start (renderModule constName classes).toList) := by
    simp [Source.codeBytes, dropBytes]
  rw [hstart, hread, Source.codeBytesFrom_code, hopening, Source.codeBytesFrom_hidden, hend, hsize,
    ← List.range_eq_range', byteLength_toList, Nat.zero_add]

/-- A class string holds no carriage returns: its blanks are single spaces. -/
theorem return_not_mem_render (name : String) (sources : List SourceText) :
    '\r' ∉ (extract name sources).classes.render.toList := by
  intro hreturn
  rcases mem_joinWords hreturn with hspace | ⟨token, htoken, hmem⟩
  · exact absurd hspace (by decide)
  · have hblank := (isWord_of_mem_extract htoken).2 '\r' hmem
    exact absurd hblank (by decide)

/-- **The generated module spells the class string.** What stands between its backquotes is template
text that scripts read as the class string, and the reader of code skips this template and nothing
else. Class strings hold no carriage returns, which a template could not spell unescaped. -/
theorem renderModule_spells :
    (∀ (name : String) (sources : List SourceText),
        '\r' ∉ (extract name sources).classes.render.toList)
      ∧ ∀ (constName classes : String), isIdentifier constName = true → '\r' ∉ classes.toList →
        ∃ body : List Char,
          (renderModule constName classes).toList
              = (moduleHead constName).toList ++ '\x60' :: (body ++ ['\x60', '\n'])
            ∧ TemplateText body
            ∧ templateAt? ('\x60' :: (body ++ ['\x60', '\n'])) = some (classes, ['\n'])
            ∧ Source.codeBytes (renderModule constName classes) 0
              = (List.range (moduleHead constName).utf8ByteSize).zip
                  (bytes (moduleHead constName).toList)
                ++ [((renderModule constName classes).utf8ByteSize - 1, '\n'.toUInt8)] := by
  refine ⟨return_not_mem_render, fun constName classes hname hreturn => ?_⟩
  exact ⟨escapeTemplate classes.toList, toList_renderModule constName classes,
    templateText_escapeTemplate _, templateAt?_escapeTemplate hreturn _,
    codeBytes_renderModule hname classes⟩

/-- Backslashes in front of every character that is escaped, and dollar signs in a row. -/
theorem renderModule_spells_escapes :
    let text := "a\\\x60 $$\x7bx\x7d \\$\x7b $5 \x60\\"
    isIdentifier "$c" = true ∧ '\r' ∉ text.toList
      ∧ ∃ body : List Char,
        (renderModule "$c" text).toList
            = (moduleHead "$c").toList ++ '\x60' :: (body ++ ['\x60', '\n'])
          ∧ TemplateText body
          ∧ templateAt? ('\x60' :: (body ++ ['\x60', '\n'])) = some (text, ['\n'])
          ∧ Source.codeBytes (renderModule "$c" text) 0
            = (List.range 18).zip (bytes (moduleHead "$c").toList)
              ++ [(46, '\n'.toUInt8)] := by
  intro text
  have hname : isIdentifier "$c" = true := by decide
  have hreturn : '\r' ∉ text.toList := by decide
  have hhead : (moduleHead "$c").utf8ByteSize = 18 := by decide
  have hlast : (renderModule "$c" text).utf8ByteSize - 1 = 46 := by decide
  have hspells := renderModule_spells.2 "$c" text hname hreturn
  rw [hhead, hlast] at hspells
  exact ⟨hname, hreturn, hspells⟩

end UtilityClasses
