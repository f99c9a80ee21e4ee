import TypeGraph.Pattern.Syntax
import TypeGraph.Unicode.Age
import TypeGraph.Unicode.Break
import TypeGraph.Unicode.CaseVariants
import TypeGraph.Unicode.Classes
import TypeGraph.Unicode.Script

/-!
# Classes of patterns

The set of characters that a class stands for. Under "ignore case" a set is closed under case variants
before it is reversed or combined. Without the Unicode option a class holds ASCII characters only, so
reversing one is refused.
-/

namespace TypeGraph.Pattern

open Unicode (Ranges)

/-- The options at some point of a pattern. -/
structure Options where
  ignoreCase : Bool := false
  multiLine : Bool := false
  dotMatchesNewline : Bool := false
  swapGreed : Bool := false
  unicode : Bool := true
  carriageReturn : Bool := false

/-- The options after one of them is set. -/
def Options.set (o : Options) : Flag × Bool → Options
  | (.ignoreCase, value) => { o with ignoreCase := value }
  | (.multiLine, value) => { o with multiLine := value }
  | (.dotMatchesNewline, value) => { o with dotMatchesNewline := value }
  | (.swapGreed, value) => { o with swapGreed := value }
  | (.unicode, value) => { o with unicode := value }
  | (.carriageReturn, value) => { o with carriageReturn := value }
  | (.ignoreSpace, _) => o

/-- The options after some settings. -/
def Options.apply (o : Options) (settings : Settings) : Options := settings.foldl Options.set o

/-! ## Properties -/

/-- A name as it is looked up: in lower case, without blanks, dashes and underscores, and without
`is` at the beginning. -/
def looseName (name : String) : String :=
  let cs := name.toList
  let lower := cs.map Char.toLower
  let (prefixed, rest) := match lower with
    | 'i' :: 's' :: rest => (true, rest)
    | rest => (false, rest)
  let kept := rest.filter fun c => c ≠ ' ' && c ≠ '_' && c ≠ '-' && c.toNat < 0x80
  if prefixed && kept == ['c'] then "isc" else String.ofList kept

/-- Names that stand for a category, though a property with values has the same short name. -/
def categoryFirst : List String := ["cf", "sc", "lc"]

/-- All characters. -/
def anyCharacter : Ranges := (⟨[]⟩ : Ranges).complement

/-- The ASCII characters. -/
def asciiCharacter : Ranges := ⟨[(0, 0x7f)]⟩

/-- A general category, or one of the sets that are looked up like one. -/
def categoryRanges? (name : String) : Option Ranges :=
  if name = "any" then some anyCharacter
  else if name = "assigned" then some Unicode.GeneralCategory.assigned
  else if name = "ascii" then some asciiCharacter
  else Unicode.GeneralCategory.ranges? name

/-- A property with values, by its short or long name: the characters that have a value of it. -/
def valuesOf? (property : String) : Option (String → Option Ranges) :=
  (table.find? fun row => row.1.contains property).map (·.2)
where
  /-- Every property with values. -/
  table : List (List String × (String → Option Ranges)) :=
    [(["gc", "generalcategory"], categoryRanges?),
     (["sc", "script"], fun value => (Unicode.Script.named? value).map (·.members)),
     (["scx", "scriptextensions"], fun value => (Unicode.Script.named? value).map (·.extensions)),
     (["age"], Unicode.Age.ranges?),
     (["gcb", "graphemeclusterbreak"], Unicode.Break.Cluster.ranges?),
     (["wb", "wordbreak"], Unicode.Break.Word.ranges?),
     (["sb", "sentencebreak"], Unicode.Break.Sentence.ranges?)]

/-- The characters with a property: a property of its own, a category, or a script. A property with
values needs one of them. -/
def PropertyName.ranges? : PropertyName → Option Ranges
  | .named name =>
    let name := looseName name
    if categoryFirst.contains name then categoryRanges? name
    else if (valuesOf? name).isSome then none
    else
      Unicode.Property.ranges? name <|> categoryRanges? name <|>
        (Unicode.Script.named? name).map (·.members)
  | .valued property value => do (← valuesOf? (looseName property)) (looseName value)

/-! ## ASCII classes and shorthands -/

/-- The characters of an ASCII class. -/
def asciiRanges (name : String) : Ranges :=
  match name with
  | "alnum" => ⟨[(0x30, 0x39), (0x41, 0x5a), (0x61, 0x7a)]⟩
  | "alpha" => ⟨[(0x41, 0x5a), (0x61, 0x7a)]⟩
  | "ascii" => asciiCharacter
  | "blank" => ⟨[(0x09, 0x09), (0x20, 0x20)]⟩
  | "cntrl" => ⟨[(0x00, 0x1f), (0x7f, 0x7f)]⟩
  | "digit" => ⟨[(0x30, 0x39)]⟩
  | "graph" => ⟨[(0x21, 0x7e)]⟩
  | "lower" => ⟨[(0x61, 0x7a)]⟩
  | "print" => ⟨[(0x20, 0x7e)]⟩
  | "punct" => ⟨[(0x21, 0x2f), (0x3a, 0x40), (0x5b, 0x60), (0x7b, 0x7e)]⟩
  | "space" => ⟨[(0x09, 0x0d), (0x20, 0x20)]⟩
  | "upper" => ⟨[(0x41, 0x5a)]⟩
  | "word" => ⟨[(0x30, 0x39), (0x41, 0x5a), (0x5f, 0x5f), (0x61, 0x7a)]⟩
  | "xdigit" => ⟨[(0x30, 0x39), (0x41, 0x46), (0x61, 0x66)]⟩
  | _ => ⟨[]⟩

/-- The characters of a shorthand. -/
def Shorthand.ranges (unicode : Bool) : Shorthand → Ranges
  | .digit => if unicode then Unicode.GeneralCategory.decimalNumber else asciiRanges "digit"
  | .space => if unicode then Unicode.Property.whiteSpace else asciiRanges "space"
  | .word => if unicode then Unicode.wordCharacters else asciiRanges "word"

/-- A shorthand or its reverse. -/
def shorthandRanges? (o : Options) (kind : Shorthand) (negated : Bool) : Option Ranges :=
  let set := kind.ranges o.unicode
  if !negated then some set else if o.unicode then some set.complement else none

/-! ## Sets -/

/-- A set closed under case variants if case is ignored. -/
def foldCase (o : Options) (set : Ranges) : Ranges :=
  if !o.ignoreCase then set
  else if o.unicode then Unicode.CaseVariants.close set
  else (Unicode.CaseVariants.close set).inter asciiCharacter

/-- A set closed under case variants and then reversed, each if asked for. -/
def foldAndNegate? (o : Options) (negated : Bool) (set : Ranges) : Option Ranges :=
  let set := foldCase o set
  if !negated then some set else if o.unicode then some set.complement else none

/-- A property or its reverse. Properties need the Unicode option. -/
def propertyRanges? (o : Options) (name : PropertyName) (negated : Bool) : Option Ranges :=
  if o.unicode then name.ranges?.bind (foldAndNegate? o negated) else none

/-- Whether a literal can stand in a class. -/
def isClassLiteral (o : Options) (c : Char) : Bool := o.unicode || c.toNat < 0x80

mutual

/-- The set of characters of a class. -/
def SetExpr.ranges? (o : Options) : SetExpr → Option Ranges
  | .empty => some ⟨[]⟩
  | .literal c _ => if isClassLiteral o c then some (.single c) else none
  | .range low high _ _ =>
    if isClassLiteral o low && isClassLiteral o high then some (.between low high) else none
  | .ascii name negated => foldAndNegate? o negated (asciiRanges name)
  | .property name negated => propertyRanges? o name negated
  | .shorthand kind negated => shorthandRanges? o kind negated
  | .bracketed negated set => (set.ranges? o).bind (foldAndNegate? o negated)
  | .union items => (SetExpr.rangesOf? o items).map Ranges.union
  | .op operation left right => do
    let left := foldCase o (← left.ranges? o)
    let right := foldCase o (← right.ranges? o)
    match operation with
    | .inter => return left.inter right
    | .diff => return left.diff right
    | .symmDiff => return left.symmDiff right

/-- The sets of some classes. -/
def SetExpr.rangesOf? (o : Options) : List SetExpr → Option (List Ranges)
  | [] => some []
  | item :: rest => do
    let set ← item.ranges? o
    let sets ← SetExpr.rangesOf? o rest
    return set :: sets

end

end TypeGraph.Pattern
