/-!
# Syntax of patterns

What a pattern says, as a tree. Options such as "ignore case" stay in the tree as they are written,
since they hold from where they stand to the end of the enclosing group.
-/

namespace TypeGraph.Pattern

/-- The options of a pattern. -/
inductive Flag where
  | ignoreCase
  | multiLine
  | dotMatchesNewline
  | swapGreed
  | unicode
  | carriageReturn
  | ignoreSpace
  deriving DecidableEq, Repr

/-- Options that are switched on or off. -/
abbrev Settings := List (Flag × Bool)

/-- The value that some settings give an option. -/
def Settings.value? (settings : Settings) (flag : Flag) : Option Bool :=
  (settings.find? fun (f, _) => f = flag).map (·.2)

/-- Conditions on a place in the text. -/
inductive Anchor where
  | lineStart
  | lineEnd
  | textStart
  | textEnd
  | wordBoundary
  | notWordBoundary
  | wordStart
  | wordEnd
  | wordStartHalf
  | wordEndHalf
  deriving DecidableEq, Repr

/-- Classes with a letter of their own. -/
inductive Shorthand where
  | digit
  | space
  | word
  deriving DecidableEq, Repr

/-- A class by a property of its characters. -/
inductive PropertyName where
  | named (name : String)
  | valued (property value : String)
  deriving DecidableEq, Repr

/-- Operations on two classes. -/
inductive SetOp where
  | inter
  | diff
  | symmDiff
  deriving DecidableEq, Repr

/-- What stands between the brackets of a class. -/
inductive SetExpr where
  | empty
  | literal (c : Char) (byte : Bool)
  | range (low high : Char) (lowByte highByte : Bool)
  | ascii (name : String) (negated : Bool)
  | property (name : PropertyName) (negated : Bool)
  | shorthand (kind : Shorthand) (negated : Bool)
  | bracketed (negated : Bool) (set : SetExpr)
  | union (items : List SetExpr)
  | op (op : SetOp) (left right : SetExpr)

/-- A pattern. A literal written as a two-digit code is a `byte`. A repetition is `greedy` unless it is
written with the mark that makes it reluctant. -/
inductive Expr where
  | empty
  | flags (settings : Settings)
  | literal (c : Char) (byte : Bool)
  | dot
  | anchor (kind : Anchor)
  | shorthand (kind : Shorthand) (negated : Bool)
  | property (name : PropertyName) (negated : Bool)
  | bracketed (negated : Bool) (set : SetExpr)
  | repeated (body : Expr) (min : Nat) (max : Option Nat) (greedy : Bool)
  | group (settings : Settings) (captures : Bool) (body : Expr)
  | concat (parts : List Expr)
  | alternation (parts : List Expr)

/-- Items side by side; a single one stands for itself. -/
def SetExpr.ofItems : List SetExpr → SetExpr
  | [] => .empty
  | [item] => item
  | items => .union items

/-- Patterns one after the other; a single one stands for itself. -/
def Expr.ofParts : List Expr → Expr
  | [] => .empty
  | [part] => part
  | parts => .concat parts

/-- Patterns to choose from; a single one stands for itself. -/
def Expr.ofChoices : List Expr → Expr
  | [part] => part
  | parts => .alternation parts

/-! ## Depth -/

mutual

/-- How deep classes are nested. -/
def SetExpr.depth : SetExpr → Nat
  | .bracketed _ set => set.depth + 1
  | .union items => SetExpr.depthOf items + 1
  | .op _ left right => max left.depth right.depth + 1
  | _ => 0

/-- The greatest depth of some classes. -/
def SetExpr.depthOf : List SetExpr → Nat
  | [] => 0
  | item :: rest => max item.depth (SetExpr.depthOf rest)

end

mutual

/-- How deep a pattern is nested. -/
def Expr.depth : Expr → Nat
  | .bracketed _ set => set.depth + 1
  | .repeated body _ _ _ => body.depth + 1
  | .group _ _ body => body.depth + 1
  | .concat parts => Expr.depthOf parts + 1
  | .alternation parts => Expr.depthOf parts + 1
  | _ => 0

/-- The greatest depth of some patterns. -/
def Expr.depthOf : List Expr → Nat
  | [] => 0
  | part :: rest => max part.depth (Expr.depthOf rest)

end

end TypeGraph.Pattern
