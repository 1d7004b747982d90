import UtilityClasses.Decimal.Double

/-!
Expressions of scripts, as far as their value can be told without running them.

Literals, objects, lists, sequences, groups and the wrappers that only speak about types keep their
structure. Every other expression is `dynamic`: its form is kept, because it decides what the
expression may stand next to, and the expressions it is made of, but nothing is said about its value.

A text is `none` when it holds half of a surrogate pair, which no string of characters spells.
-/

namespace UtilityClasses.Script

open UtilityClasses.Decimal (Double)

/-- Wrappers around an expression that leave its value as it is. -/
inductive TypeWrapper where
  | asType
  | asConst
  | satisfies
  | nonNull
  deriving DecidableEq, Repr, Inhabited

inductive Form where
  | this
  | bigint
  | regex
  | template
  | taggedTemplate
  | unary
  | update
  | binary
  | conditional
  | assignment
  | arrow
  | function
  | classBody
  | call
  | creation (hasArguments : Bool)
  | member
  | superMember
  | optionalChain
  | metaProperty
  | awaited
  | yielded
  | element
  | instantiation
  | privateName
  | spread
  | missing
  deriving DecidableEq, Repr, Inhabited

mutual

inductive Expr where
  | null
  | boolean (value : Bool)
  | number (value : Double)
  | text (value : Option String)
  | template (cooked : Option String)
  | object (members : List Member)
  | list (items : List Expr)
  | sequence (first : Expr) (others : List Expr)
  | group (inner : Expr)
  | typed (wrapper : TypeWrapper) (inner : Expr)
  | identifier (name : String)
  | dynamic (form : Form) (operands : List Expr)
  deriving Repr

inductive Key where
  | identifier (name : String)
  | text (value : Option String)
  | number (value : Double)
  | bigint
  | computed (inner : Expr)
  deriving Repr

/-- A member of an object. A method may be an accessor; a shorthand may carry a default, which is
only of use in a pattern. -/
inductive Member where
  | entry (key : Key) (value : Expr)
  | shorthand (name : String)
  | shorthandDefault (name : String) (value : Expr)
  | spread (value : Expr)
  | method (key : Key)
  deriving Repr

end

instance : Inhabited Expr := ⟨.null⟩

instance : Inhabited Key := ⟨.bigint⟩

namespace Expr

def isArrow : Expr → Bool
  | dynamic .arrow _ => true
  | _ => false

def endsAssignment : Expr → Bool
  | dynamic .conditional _ | dynamic .binary _ | dynamic .unary _ | dynamic .update _ => true
  | _ => false

/-- Whether an operator stands before the expression, so that a power of it would be misread. -/
def isPrefixed : Expr → Bool
  | dynamic .unary _ | dynamic .awaited _ => true
  | _ => false

/-- Expressions that may be assigned to without being a pattern. -/
def isSimpleTarget : Expr → Bool
  | identifier _ | group _ => true
  | typed wrapper _ => wrapper ≠ .asConst
  | dynamic .member _ | dynamic .superMember _ | dynamic .optionalChain _
  | dynamic .instantiation _ | dynamic .missing _ => true
  | _ => false

def isTarget (expr : Expr) : Bool :=
  match expr with
  | object _ | list _ => true
  | _ => expr.isSimpleTarget

end Expr

/-- An optional chain, also one whose value is marked as present. -/
def Expr.isChain : Expr → Bool
  | .dynamic .optionalChain _ => true
  | .typed .nonNull inner => inner.isChain
  | _ => false

mutual

/-- Whether an expression, read as a pattern, holds a method or an accessor. What the rest of an object
is taken into counts in assignments, but not where names are bound. -/
def Expr.patternHasMethod (assigns : Bool) : Expr → Bool
  | .object members => membersHaveMethod assigns members
  | .list items => itemsHaveMethod assigns items
  | .dynamic .spread [inner] => inner.patternHasMethod assigns
  | _ => false

def membersHaveMethod (assigns : Bool) : List Member → Bool
  | [] => false
  | .entry _ value :: rest => value.patternHasMethod assigns || membersHaveMethod assigns rest
  | .spread value :: rest =>
    (assigns && value.patternHasMethod assigns) || membersHaveMethod assigns rest
  | .method _ :: _ => true
  | _ :: rest => membersHaveMethod assigns rest

/-- Only the last item may be spread out; others that are count for nothing. -/
def itemsHaveMethod (assigns : Bool) : List Expr → Bool
  | [] => false
  | .dynamic .spread _ :: next :: rest => itemsHaveMethod assigns (next :: rest)
  | item :: rest => item.patternHasMethod assigns || itemsHaveMethod assigns rest

end

end UtilityClasses.Script
