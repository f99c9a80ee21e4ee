import Mathlib.Data.Set.Operations
import TypeGraph.Printed.Imports
import TypeGraph.Proofs.Printed.Parts

/-!
# Types that a configuration names

A configuration names types by texts. What is read from a text is an array, of any depth, of a keyword or of
a plain name, one that is no keyword and does not end in brackets (`TypeExpr.Named`). Reading and printing
are inverse to each other between all texts and these types: a text is printed as it was written
(`type_ofText`), and a type of this kind is read from its printed text (`ofText_type`).
-/

namespace TypeGraph

/-! ## Keywords -/

namespace Keyword

variable {s : String} {k : Keyword}

theorem ofText?_text (k : Keyword) : ofText? k.text = some k := by
  cases k <;> rfl

/-- A keyword is read from its own text and from no other. -/
theorem ofText?_eq_some_iff : ofText? s = some k ↔ s = k.text := by
  constructor
  · intro h
    unfold ofText? at h
    have hsame := List.find?_some h
    exact (beq_iff_eq.mp hsame).symm
  · rintro rfl
    exact ofText?_text k

theorem ofText?_eq_none_iff : ofText? s = none ↔ ∀ k : Keyword, s ≠ k.text := by
  rw [Option.eq_none_iff_forall_ne_some]
  simp only [ne_eq, ofText?_eq_some_iff]

end Keyword

/-! ## Types that are read from texts -/

namespace TypeExpr

variable {module : Option String} {name : String} {r t : TypeExpr}

/-- A plain name is no keyword and does not end in brackets. -/
structure IsPlain (name : String) : Prop where
  ne_keyword : ∀ k : Keyword, name ≠ k.text
  no_brackets : ¬ "[]".toList <:+ name.toList

/-- The types that texts stand for. A plain name is one of the module, or a global if there is no module. -/
inductive Named (module : Option String) : TypeExpr → Prop
  | keyword (k : Keyword) : Named module (.keyword k)
  | external {name m : String} (hmodule : module = some m) (h : IsPlain name) :
      Named module (.external name m)
  | global {name : String} (hmodule : module = none) (h : IsPlain name) : Named module (.global name)
  | array {t : TypeExpr} (h : Named module t) : Named module (.array t)

/-- A text is a keyword or a plain name, or it ends in brackets. -/
theorem text_induction {P : String → Prop} (keyword : ∀ k : Keyword, P k.text)
    (plain : ∀ s, IsPlain s → P s) (brackets : ∀ s, P s → P (s ++ "[]")) (s : String) : P s := by
  by_cases hend : "[]".toList <:+ s.toList
  · obtain ⟨before, hbefore⟩ := hend
    have heq : s = String.ofList before ++ "[]" := by
      rw [← String.toList_inj, ← hbefore]
      simp
    rw [heq]
    exact brackets _ (text_induction keyword plain brackets (String.ofList before))
  · by_cases hword : ∃ k : Keyword, s = k.text
    · obtain ⟨k, rfl⟩ := hword
      exact keyword k
    · exact plain s ⟨fun k hk => hword ⟨k, hk⟩, hend⟩
termination_by s.length
decreasing_by
  rw [heq, String.length_append]
  exact Nat.lt_add_of_pos_right (by decide)

/-! ## Reading -/

theorem ofText_of_no_brackets (h : ¬ "[]".toList <:+ name.toList) (module : Option String) :
    ofText name module = ofAtom name module := by
  rw [ofText, ofReversed, List.reverse_reverse, String.ofList_toList]
  intro rest hrest
  apply h
  rw [← List.reverse_prefix, hrest]
  exact ⟨rest, rfl⟩

theorem ofText_text (k : Keyword) (module : Option String) : ofText k.text module = .keyword k := by
  have hend : ¬ "[]".toList <:+ k.text.toList := by cases k <;> decide
  rw [ofText_of_no_brackets hend]
  simp only [ofAtom, Keyword.ofText?_text]

theorem ofText_of_isPlain (h : IsPlain name) (module : Option String) :
    ofText name module = module.elim (.global name) (.external name) := by
  rw [ofText_of_no_brackets h.no_brackets]
  simp only [ofAtom, Keyword.ofText?_eq_none_iff.mpr h.ne_keyword]
  cases module <;> rfl

/-- Brackets at the end are one level of arrays. -/
theorem ofText_brackets (s : String) (module : Option String) :
    ofText (s ++ "[]") module = .array (ofText s module) := by
  simp [ofText, ofReversed]

theorem named_ofText (s : String) (module : Option String) : Named module (ofText s module) := by
  induction s using text_induction with
  | keyword k =>
      rw [ofText_text]
      exact .keyword k
  | plain s h =>
      rw [ofText_of_isPlain h]
      cases module with
      | some m => exact .external rfl h
      | none => exact .global rfl h
  | brackets s ih =>
      rw [ofText_brackets]
      exact .array ih

/-- The names in a type that is read are plain. -/
theorem Named.isPlain (h : Named module t) (hpart : r.PartOf t)
    (hname : r = .global name ∨ ∃ m, r = .external name m) : IsPlain name := by
  induction h with
  | keyword k =>
      cases hpart
      simp at hname
  | external hmodule h =>
      cases hpart
      obtain rfl : _ = name := by simpa using hname
      exact h
  | global hmodule h =>
      cases hpart
      obtain rfl : _ = name := by simpa using hname
      exact h
  | array h ih =>
      cases hpart with
      | self => simp at hname
      | array hinner => exact ih hinner

end TypeExpr

/-! ## Reading and printing -/

namespace Printed

variable {naming : Naming} {module : Option String} {t : TypeExpr}

/-- A text is printed as it was written, wherever exports keep their names. -/
theorem type_ofText (h : ∀ module name, naming.external module name = name) (s : String)
    (module : Option String) : type naming (.ofText s module) = s := by
  induction s using TypeExpr.text_induction with
  | keyword k =>
      rw [TypeExpr.ofText_text]
      rfl
  | plain s hplain =>
      rw [TypeExpr.ofText_of_isPlain hplain]
      cases module with
      | some m => exact h m s
      | none => rfl
  | brackets s ih => rw [TypeExpr.ofText_brackets, type_array, ih]

/-- A type that a text stands for is read from its printed text. -/
theorem ofText_type (h : ∀ module name, naming.external module name = name)
    (ht : t.Named module) : .ofText (type naming t) module = t := by
  induction ht with
  | keyword k => exact TypeExpr.ofText_text k module
  | @external name m hmodule hplain =>
      have hprinted : type naming (.external name m) = name := h m name
      rw [hprinted, TypeExpr.ofText_of_isPlain hplain, hmodule]
      rfl
  | @global name hmodule hplain =>
      have hprinted : type naming (.global name) = name := rfl
      rw [hprinted, TypeExpr.ofText_of_isPlain hplain, hmodule]
      rfl
  | array _ ih => rw [type_array, TypeExpr.ofText_brackets, ih]

/-- The types that texts stand for are those that are read from them. -/
theorem range_ofText (module : Option String) :
    Set.range (TypeExpr.ofText · module) = {t | t.Named module} := by
  ext t
  constructor
  · rintro ⟨s, rfl⟩
    exact TypeExpr.named_ofText s module
  · intro ht
    exact ⟨type ⟨id, fun _ name => name⟩ t, ofText_type (fun _ _ => rfl) ht⟩

/-- A text is printed as it was written when the type that it names is printed outside of any module. What
texts name are the types of one kind, in which no name is a keyword or ends in brackets, and each of them is
read from its printed text. So different texts name different types. -/
theorem texts_roundTrip (g : Graph) (module : Option String) :
    (∀ s, type (plainNaming g) (.ofText s module) = s) ∧
      (∀ (s : String) (r : TypeExpr) (name : String), r.PartOf (.ofText s module) →
        (r = .global name ∨ ∃ m, r = .external name m) → TypeExpr.IsPlain name) ∧
      Set.range (TypeExpr.ofText · module) = {t | t.Named module} ∧
      (∀ t ∈ Set.range (TypeExpr.ofText · module),
        .ofText (type (plainNaming g) t) module = t) ∧
      Function.Injective (TypeExpr.ofText · module) := by
  have hprint : ∀ s, type (plainNaming g) (.ofText s module) = s :=
    fun s => type_ofText (fun _ _ => rfl) s module
  refine ⟨hprint, ?_, range_ofText module, ?_, Function.LeftInverse.injective hprint⟩
  · intro s r name hpart hname
    exact (TypeExpr.named_ofText s module).isPlain hpart hname
  · intro t ht
    rw [range_ofText] at ht
    exact ofText_type (fun _ _ => rfl) ht

/-- Brackets may stand alone. -/
example : TypeExpr.ofText "string[][]" none = .array (.array (.keyword .string)) ∧
    TypeExpr.ofText "[]" none = .array (.global "") := ⟨rfl, rfl⟩

end Printed

end TypeGraph
