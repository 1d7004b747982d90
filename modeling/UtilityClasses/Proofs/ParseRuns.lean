import UtilityClasses.Script.Reading

/-!
# Running readers step by step

What the basic readers do in a context and at a cursor. With these equations a reader runs by
rewriting as far as the token that is next is known.
-/

namespace UtilityClasses.Script

variable {α β : Type} (reading : Parse α) (context : Context) (cursor : Cursor)

@[simp]
theorem run_pure (value : α) : (pure value : Parse α) context cursor = .ok value cursor := rfl

@[simp]
theorem run_bind (next : α → Parse β) :
    (reading >>= next) context cursor
      = match reading context cursor with
        | .ok value after => next value context after
        | .error cause after => .error cause after := by
  change EStateM.bind (reading context) (fun value => next value context) cursor = _
  rw [EStateM.bind]
  cases reading context cursor <;> rfl

@[simp]
theorem run_map (change : α → β) :
    (change <$> reading) context cursor
      = match reading context cursor with
        | .ok value after => .ok (change value) after
        | .error cause after => .error cause after := by
  change EStateM.map change (reading context) cursor = _
  rw [EStateM.map]
  cases reading context cursor <;> rfl

@[simp]
theorem run_tryCatch (handler : SyntaxError → Parse α) :
    (tryCatch reading handler) context cursor
      = match reading context cursor with
        | .ok value after => .ok value after
        | .error cause after => handler cause context after := by
  change EStateM.tryCatch (reading context) (fun cause => handler cause context) cursor = _
  delta EStateM.tryCatch
  dsimp only
  cases reading context cursor <;> rfl

@[simp]
theorem run_ite (condition : Prop) [Decidable condition] (yes no : Parse α) :
    (if condition then yes else no) context cursor
      = if condition then yes context cursor else no context cursor := by
  split <;> rfl

@[simp]
theorem run_get : (get : Parse Cursor) context cursor = .ok cursor cursor := rfl

@[simp]
theorem run_read : (read : Parse Context) context cursor = .ok context cursor := rfl

@[simp]
theorem run_modify (change : Cursor → Cursor) :
    (modify change : Parse Unit) context cursor = .ok () (change cursor) := rfl

@[simp]
theorem run_inContext (change : Context → Context) :
    inContext change reading context cursor = reading (change context) cursor := rfl

@[simp]
theorem run_attempt :
    attempt reading context cursor
      = match reading context cursor with
        | .ok value after => .ok (some value) after
        | .error _ _ => .ok none cursor := by
  simp only [attempt, run_bind, run_get, run_tryCatch]
  cases reading context cursor <;> rfl

/-! ### Looking at tokens -/

@[simp]
theorem run_current : current context cursor = .ok cursor.token cursor := rfl

@[simp]
theorem run_breaksBefore : breaksBefore context cursor = .ok cursor.lineBreak cursor := rfl

@[simp]
theorem run_sees (spelling : String) :
    sees spelling context cursor = .ok (cursor.token == .punctuator spelling) cursor := rfl

@[simp]
theorem run_seesWord (word : String) :
    seesWord word context cursor = .ok (cursor.token.isKeyword word) cursor := rfl

@[simp]
theorem run_seesOneWordOf (words : List String) :
    seesOneWordOf words context cursor = .ok (cursor.token.isOneOfKeywords words) cursor := rfl

def Token.isOneOf (token : Token) (spellings : List String) : Bool :=
  match token with
  | .punctuator spelling => spellings.contains spelling
  | _ => false

@[simp]
theorem run_seesOneOf (spellings : List String) :
    seesOneOf spellings context cursor = .ok (cursor.token.isOneOf spellings) cursor := by
  rw [seesOneOf, run_bind, run_current]
  obtain ⟨token, here, rest, lineBreak, arrowStart, stuck⟩ := cursor
  cases token <;> rfl

/-- The cursor at the token behind the next one. -/
def Cursor.following (context : Context) (cursor : Cursor) : Cursor :=
  .behind false context.singleAngles cursor.rest

@[simp]
theorem run_peekToken :
    peekToken context cursor
      = .ok ((cursor.following context).token, (cursor.following context).lineBreak) cursor := rfl

@[simp]
theorem run_peeks (spelling : String) :
    peeks spelling context cursor
      = .ok ((cursor.following context).token == .punctuator spelling) cursor := rfl

/-! ### Passing tokens -/

theorem run_bump (hfree : cursor.stuck = false) :
    bump context cursor = .ok () (cursor.following context) := by
  rw [bump, run_bind, run_get]
  simp only [hfree]
  rfl

theorem run_eats (spelling : String) (hfree : cursor.stuck = false) :
    eats spelling context cursor
      = if cursor.token = .punctuator spelling then .ok true (cursor.following context)
        else .ok false cursor := by
  rw [eats, run_bind, run_sees]
  simp only [run_ite, beq_iff_eq, run_bind, run_bump _ _ hfree, run_pure]

end UtilityClasses.Script
