import UtilityClasses.Config.Basic
import UtilityClasses.Proofs.LiteralTokens
import UtilityClasses.Proofs.TemplateText

/-!
# The generated module as a script

Read as a script, the generated module is one declaration: it exports a constant whose value is a
template. This is a module only if the name of the constant can be bound in one. The names that may be
configured are told by their characters alone, and reserved words are among them.
-/

namespace UtilityClasses

open Text Script

variable {name : String} {char : Char} {token : Token} {text rest : List Char} {config : Config}

/-! ### The tokens of a script -/

/-- The tokens of a text, each read behind the one before. -/
def tokensOf : Nat → List Char → List Token
  | 0, _ => []
  | fuel + 1, text =>
    match readToken false (skipGaps false text).1 with
    | (.eof, _) => []
    | (token, rest) => token :: tokensOf fuel rest

def tokens (script : String) : List Token := tokensOf (script.length + 1) script.toList

/-- Whether a name can be bound in a module, whose code is strict: it is not reserved there, and not one
of the two names that strict code does not let one bind. -/
def isBindable (name : String) : Bool :=
  !Context.reserves { strict := true } name && !(["eval", "arguments"].contains name)

/-- The constant that the tokens of a module declare and export, and the text that is its value. They
are this declaration alone, behind which a semicolon may stand, and the value is a template without
interpolations. -/
def declaredConstant? : List Token → Option (String × String)
  | first :: second :: word :: sign :: .template ⟨.units units, true⟩ :: following =>
    if first.isKeyword "export" && second.isKeyword "const" && sign == .punctuator "="
        && (following == [] || following == [.punctuator ";"]) then
      match word.spelling?.filter isBindable, spellUnits units with
      | some name, some value => some (name, value)
      | _, _ => none
    else none
  | _ => none

def exportedConstant? (script : String) : Option (String × String) :=
  declaredConstant? (tokens script)

/-! ### Words -/

theorem toNat_lt_of_isAlpha (halpha : char.isAlpha = true) : char.toNat < 128 := by
  have hcases : char.isUpper = true ∨ char.isLower = true := Bool.or_eq_true_iff.1 halpha
  rcases hcases with hupper | hlower
  · have hbounds : char.val ≥ 'A'.val ∧ char.val ≤ 'Z'.val := of_decide_eq_true hupper
    exact Nat.lt_of_le_of_lt (UInt32.le_iff_toNat_le.1 hbounds.2) (by decide)
  · have hbound : decide (char.val ≤ 'z'.val) = true := (Bool.and_eq_true_iff.1 hlower).2
    exact Nat.lt_of_le_of_lt (UInt32.le_iff_toNat_le.1 (of_decide_eq_true hbound)) (by decide)

/-- Names are ASCII. -/
theorem toNat_lt_of_isNamePart (hpart : isNamePart char = true) : char.toNat < 128 := by
  rw [isNamePart, Char.isAlphanum, Bool.or_eq_true, Bool.or_eq_true, Bool.or_eq_true] at hpart
  rcases hpart with ((halpha | hdigit) | hlow) | hdollar
  · exact toNat_lt_of_isAlpha halpha
  · exact Nat.lt_of_le_of_lt (isDigit_bounds hdigit).2 (by decide)
  · rw [beq_iff_eq.1 hlow]
    decide
  · rw [beq_iff_eq.1 hdollar]
    decide

/-- A character of a name goes on with a word. -/
theorem namePart_continues (hpart : isNamePart char = true) :
    isIdentifierPart char = true ∧ char ≠ '\\' := by
  have hall : ∀ code < 128, isNamePart (Char.ofNat code) = true →
      isIdentifierPart (Char.ofNat code) = true ∧ Char.ofNat code ≠ '\\' := by
    decide +kernel
  have hchar := hall char.toNat (toNat_lt_of_isNamePart hpart)
  rw [Char.ofNat_toNat] at hchar
  exact hchar hpart

/-- What tells that a character begins a word and no other token. -/
structure BeginsWord (char : Char) : Prop where
  solid : isSolid char = true
  noQuote : (decide (char = '"') || decide (char = '\'')) = false
  noBackquote : char ≠ '\x60'
  noNumeral : (char.isDigit || decide (char = '.')) = false
  letter : isIdentifierStart char = true

theorem nameStart_beginsWord (hstart : isNameStart char = true) (hpart : isNamePart char = true) :
    BeginsWord char := by
  have hall : ∀ code < 128, isNameStart (Char.ofNat code) = true →
      isSolid (Char.ofNat code) = true
        ∧ (decide (Char.ofNat code = '"') || decide (Char.ofNat code = '\'')) = false
        ∧ Char.ofNat code ≠ '\x60'
        ∧ ((Char.ofNat code).isDigit || decide (Char.ofNat code = '.')) = false
        ∧ isIdentifierStart (Char.ofNat code) = true := by
    decide +kernel
  have hchar := hall char.toNat (toNat_lt_of_isNamePart hpart)
  rw [Char.ofNat_toNat] at hchar
  obtain ⟨hsolid, hquote, hbackquote, hnumeral, hletter⟩ := hchar hstart
  exact ⟨hsolid, hquote, hbackquote, hnumeral, hletter⟩

theorem readWord_name {word : List Char} (hword : ∀ char ∈ word, isNamePart char = true)
    {fuel : Nat} (hfuel : word.length < fuel) (read : List Char) (rest : List Char) :
    readWord fuel read false (word ++ ' ' :: rest) = (.ok (read.reverse ++ word, false), ' ' :: rest) := by
  induction word generalizing fuel read with
  | nil =>
      obtain ⟨fuel, rfl⟩ := Nat.exists_eq_succ_of_ne_zero (Nat.ne_zero_of_lt hfuel)
      rw [List.append_nil]
      rfl
  | cons char word ih =>
      obtain ⟨fuel, rfl⟩ := Nat.exists_eq_succ_of_ne_zero (Nat.ne_zero_of_lt hfuel)
      obtain ⟨hpart, hescape⟩ := namePart_continues (hword char List.mem_cons_self)
      rw [List.length_cons] at hfuel
      rw [List.cons_append, readWord, hpart, if_pos rfl,
        ih (fun other hother => hword other (List.mem_cons_of_mem _ hother)) (by omega)]
      · simp
      · exact fun _ heq _ => hescape heq
      · exact hescape

/-- The token that a name is. -/
def nameToken (name : String) : Token := if isKeyword name then .keyword name name else .name name

theorem spelling?_nameToken (name : String) : (nameToken name).spelling? = some name := by
  rw [nameToken]
  split <;> rfl

theorem exists_cons_of_isIdentifier (hname : isIdentifier name = true) :
    ∃ first others, name.toList = first :: others ∧ isNameStart first = true := by
  rw [isIdentifier] at hname
  split at hname
  · exact absurd hname Bool.false_ne_true
  · next first others hlist =>
    rw [Bool.and_eq_true] at hname
    exact ⟨first, others, hlist, hname.1⟩

theorem readToken_name (hname : isIdentifier name = true) (rest : List Char) :
    readToken false (name.toList ++ ' ' :: rest) = (nameToken name, ' ' :: rest) := by
  have hparts := Source.isNamePart_of_isIdentifier hname
  obtain ⟨first, others, hlist, hstart⟩ := exists_cons_of_isIdentifier hname
  have hfirst := hparts first (by rw [hlist]; exact List.mem_cons_self)
  have hbegins := nameStart_beginsWord hstart hfirst
  have hfuel : name.toList.length < (name.toList ++ ' ' :: rest).length + 1 := by
    rw [List.length_append]
    omega
  have hread := readWord_name hparts hfuel [] rest
  rw [List.reverse_nil, List.nil_append] at hread
  have hhead : (name.toList ++ ' ' :: rest).head? ≠ some '\\' := by
    rw [hlist, List.cons_append, List.head?_cons, ne_eq, Option.some.injEq]
    exact (namePart_continues hfirst).2
  have htoken : readWordToken (name.toList ++ ' ' :: rest) = (nameToken name, ' ' :: rest) := by
    rw [readWordToken, hread]
    simp only [wordToken, hhead, String.ofList_toList, nameToken]
    cases isKeyword name <;> rfl
  obtain ⟨hdigit, hdot⟩ := Bool.or_eq_false_iff.1 hbegins.noNumeral
  rw [← htoken, hlist, List.cons_append, readToken, hbegins.noQuote, if_neg Bool.false_ne_true,
    if_neg hbegins.noBackquote, hdigit, hdot, Bool.false_and, Bool.false_or,
    if_neg Bool.false_ne_true, hbegins.letter, Bool.or_true, if_pos rfl]

theorem tokensOf_name (hname : isIdentifier name = true) (fuel : Nat) (rest : List Char) :
    tokensOf (fuel + 1) (name.toList ++ ' ' :: rest)
      = nameToken name :: tokensOf fuel (' ' :: rest) := by
  have hgaps : (skipGaps false (name.toList ++ ' ' :: rest)).1 = name.toList ++ ' ' :: rest := by
    obtain ⟨first, others, hlist, hstart⟩ := exists_cons_of_isIdentifier hname
    have hfirst := Source.isNamePart_of_isIdentifier hname first (by rw [hlist]; exact List.mem_cons_self)
    rw [hlist, List.cons_append, skipGaps_solid (nameStart_beginsWord hstart hfirst).solid]
  rw [tokensOf, hgaps, readToken_name hname, nameToken]
  cases isKeyword name <;> rfl

theorem tokensOf_space (fuel : Nat) (rest : List Char) :
    tokensOf fuel (' ' :: rest) = tokensOf fuel rest := by
  cases fuel <;> rfl

theorem tokensOf_equals (fuel : Nat) (rest : List Char) :
    tokensOf (fuel + 1) ('=' :: ' ' :: rest) = .punctuator "=" :: tokensOf fuel (' ' :: rest) := rfl

theorem tokensOf_template (fuel : Nat) (text : List Char) :
    tokensOf (fuel + 2) ('\x60' :: (escapeTemplate text ++ '\x60' :: ['\n']))
      = [.template ⟨.units ((lineFeeds text).map Char.toNat), true⟩] := by
  have hend : tokensOf (fuel + 1) ['\n'] = [] := rfl
  rw [tokensOf, skipGaps_solid (by decide), readToken_escapeTemplate]
  dsimp only
  rw [hend]

/-- **The tokens of a generated module** are those of one declaration. -/
theorem tokens_renderModule (hname : isIdentifier name = true) (classes : String) :
    tokens (renderModule name classes)
      = [nameToken "export", nameToken "const", nameToken name, .punctuator "=",
        .template ⟨.units ((lineFeeds classes.toList).map Char.toNat), true⟩] := by
  have hhead : (moduleHead name).toList
      = "export".toList ++ ' ' :: ("const".toList ++ ' ' :: (name.toList ++ [' ', '=', ' '])) := by
    have hwords : "export const ".toList = "export".toList ++ ' ' :: ("const".toList ++ [' ']) := by
      decide
    have hequals : " = ".toList = [' ', '=', ' '] := by decide
    rw [moduleHead, String.toList_append, String.toList_append, hwords, hequals]
    simp only [List.append_assoc, List.cons_append, List.nil_append]
  have hlist := toList_renderModule name classes
  rw [hhead] at hlist
  simp only [List.append_assoc, List.cons_append, List.nil_append] at hlist
  obtain ⟨fuel, hfuel⟩ : ∃ fuel, (renderModule name classes).length + 1 = fuel + 6 := by
    have hlength := congrArg List.length hlist
    simp only [String.length_toList, List.length_append, List.length_cons] at hlength
    exact ⟨(renderModule name classes).length - 5, by omega⟩
  rw [tokens, hfuel, hlist, tokensOf_name (by decide), tokensOf_space, tokensOf_name (by decide),
    tokensOf_space, tokensOf_name hname, tokensOf_space, tokensOf_equals, tokensOf_space,
    tokensOf_template]

theorem isIdentifier_constName (hvalid : config.validate = .ok ()) :
    isIdentifier config.constName = true := by
  cases hname : isIdentifier config.constName with
  | true => rfl
  | false =>
      obtain ⟨fault, hfault⟩ : ∃ fault, config.fault? = some fault := by
        rw [Config.fault?, hname]
        split
        · exact ⟨_, rfl⟩
        · split
          · exact ⟨_, rfl⟩
          · exact ⟨_, rfl⟩
      rw [Config.validate, hfault] at hvalid
      exact absurd hvalid nofun

theorem declaredConstant?_tokens (name : String) (value : List Char) :
    declaredConstant? [nameToken "export", nameToken "const", nameToken name, .punctuator "=",
        .template ⟨.units (value.map Char.toNat), true⟩]
      = if isBindable name then some (name, String.ofList value) else none := by
  have hvalue : spellUnits (value.map Char.toNat) = some (String.ofList value) := by
    simp [spellUnits, joinSurrogates_codes]
  have hsigns : ((nameToken "export").isKeyword "export" && (nameToken "const").isKeyword "const"
      && (Token.punctuator "=" == .punctuator "=")
      && (([] : List Token) == [] || ([] : List Token) == [.punctuator ";"])) = true := by
    decide
  rw [declaredConstant?, if_pos hsigns, spelling?_nameToken, hvalue, Option.filter_some]
  cases isBindable name <;> rfl

/-- **What a valid configuration generates is a module with one exported constant exactly if** the name
of the constant can be bound. Names that are reserved pass for valid. -/
theorem renderModule_declares_constant (hvalid : config.validate = .ok ()) (classes : String) :
    exportedConstant? (renderModule config.constName classes)
      = if isBindable config.constName then
          some (config.constName, String.ofList (lineFeeds classes.toList))
        else none := by
  rw [exportedConstant?, tokens_renderModule (isIdentifier_constName hvalid),
    declaredConstant?_tokens]

def configNaming (constName : String) : Config := { Config.default with constName }

/-- A word that has a meaning in some places can be bound, and line ends spell line feeds. -/
theorem renderModule_declares_contextual_word :
    (configNaming "async").validate = .ok ()
      ∧ exportedConstant? (renderModule (configNaming "async").constName "a\r\n\x60$\x7bx\x7d\\\r")
        = some ("async", "a\n\x60$\x7bx\x7d\\\n") := by
  have hvalid : (configNaming "async").validate = .ok () := rfl
  refine ⟨hvalid, (renderModule_declares_constant hvalid _).trans ?_⟩
  decide +kernel

/-- A reserved word is taken for an identifier and passes for a valid name, but the module does not
declare anything. -/
theorem reserved_word_passes :
    isIdentifier "class" = true ∧ (configNaming "class").validate = .ok ()
      ∧ isBindable "class" = false
      ∧ exportedConstant? (renderModule (configNaming "class").constName "flex") = none :=
  ⟨by decide, rfl, by decide, by decide +kernel⟩

end UtilityClasses
