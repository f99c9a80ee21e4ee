import TypeGraph.Proofs.Printed.Parts

/-!
# Keys of properties

A name that is no identifier is printed between single quotes, with a backslash before every single quote
in it. Whoever reads such a key takes the character behind a backslash as it is, and leaves the key at the
first quote that is not taken so (`Text.literal?`). The backslashes of the name itself are printed without
another one, so the reader takes them for escapes (`Text.ReadAs`): the key is read as the name exactly
when there is none in it (`keyFor_key_iff`). With one it is the key of another name, ends too early or does
not end at all. Still no two names have the same key (`key_injective`).
-/

namespace TypeGraph

/-! ## Literals -/

namespace Text

variable {text name content more rest after : List Char} {c : Char}

/-- The content of a literal behind its opening quote, and what stands behind the quote that closes it. A
backslash is left out, and the character behind it belongs to the content whatever it is. -/
def literal? : List Char → Option (List Char × List Char)
  | [] => none
  | '\'' :: rest => some ([], rest)
  | '\\' :: c :: rest => (literal? rest).map fun (content, after) => (c :: content, after)
  | c :: rest => (literal? rest).map fun (content, after) => (c :: content, after)

theorem map_cons_eq_some_iff {read : Option (List Char × List Char)} :
    (read.map fun (content, after) => (c :: content, after)) = some (content, after) ↔
      ∃ more, content = c :: more ∧ read = some (more, after) := by
  rw [Option.map_eq_some_iff]
  constructor
  · rintro ⟨⟨more, _⟩, hread, heq⟩
    obtain ⟨rfl, rfl⟩ := Prod.mk.inj heq
    exact ⟨more, rfl, hread⟩
  · rintro ⟨more, rfl, hread⟩
    exact ⟨(more, after), hread, rfl⟩

theorem literal?_escape_iff : literal? ('\\' :: c :: rest) = some (content, after) ↔
    ∃ more, content = c :: more ∧ literal? rest = some (more, after) := by
  rw [literal?, map_cons_eq_some_iff]

theorem literal?_cons_iff (hquote : c ≠ '\'') (hescape : c ≠ '\\') :
    literal? (c :: rest) = some (content, after) ↔
      ∃ more, content = c :: more ∧ literal? rest = some (more, after) := by
  rw [literal?, map_cons_eq_some_iff]
  · exact hquote
  · intro _ _ heq _
    exact hescape heq

/-- Of a literal at least the closing quote is read. -/
theorem length_lt_of_literal? (h : literal? text = some (content, after)) :
    after.length < text.length := by
  fun_induction literal? text generalizing content with
  | case1 => simp at h
  | case2 rest =>
      obtain ⟨_, rfl⟩ := Prod.mk.inj (Option.some.inj h)
      rw [List.length_cons]
      omega
  | case3 c rest ih =>
      obtain ⟨more, _, hmore⟩ := map_cons_eq_some_iff.mp h
      have hrest := ih hmore
      simp only [List.length_cons]
      omega
  | case4 c rest _ _ ih =>
      obtain ⟨more, _, hmore⟩ := map_cons_eq_some_iff.mp h
      have hrest := ih hmore
      rw [List.length_cons]
      omega

/-! ## What a quoted name is read as -/

/-- How a name is read that was quoted without regard to its backslashes: a backslash goes away and takes
the character behind it along, which is no single quote. -/
inductive ReadAs : List Char → List Char → Prop
  | nil : ReadAs [] []
  | plain {c : Char} {name content : List Char} (hc : c ≠ '\\') (h : ReadAs name content) :
      ReadAs (c :: name) (c :: content)
  | escaped {c : Char} {name content : List Char} (hc : c ≠ '\'') (h : ReadAs name content) :
      ReadAs ('\\' :: c :: name) (c :: content)

theorem ReadAs.refl (h : '\\' ∉ name) : ReadAs name name := by
  induction name with
  | nil => exact .nil
  | cons c rest ih =>
      rw [List.mem_cons, not_or] at h
      exact .plain (Ne.symm h.1) (ih h.2)

theorem ReadAs.length_le (h : ReadAs name content) : content.length ≤ name.length := by
  induction h with
  | nil => exact Nat.le_refl _
  | plain _ _ ih =>
      simp only [List.length_cons]
      omega
  | escaped _ _ ih =>
      simp only [List.length_cons]
      omega

/-- Every backslash that is read makes the content shorter. -/
theorem ReadAs.length_lt (h : ReadAs name content) (hmem : '\\' ∈ name) :
    content.length < name.length := by
  induction h with
  | nil => simp at hmem
  | plain hc _ ih =>
      have hlater := ih ((List.mem_cons.mp hmem).resolve_left (Ne.symm hc))
      simp only [List.length_cons]
      omega
  | escaped _ h _ =>
      have hle := h.length_le
      simp only [List.length_cons]
      omega

/-- Only names without backslashes are read as themselves. -/
theorem readAs_self_iff : ReadAs name name ↔ '\\' ∉ name := by
  constructor
  · intro h hmem
    have hlt := h.length_lt hmem
    omega
  · exact ReadAs.refl

end Text

namespace Printed

open Text (literal? ReadAs)

variable {name content rest text after : List Char} {c : Char}

/-! ## Quoted names -/

/-- The characters of a name between the quotes of its key. -/
def quotedChars (name : List Char) : List Char := name.flatMap keyChar

theorem quotedChars_cons_quote (rest : List Char) :
    quotedChars ('\'' :: rest) = '\\' :: '\'' :: quotedChars rest := rfl

theorem quotedChars_cons (hc : c ≠ '\'') (rest : List Char) :
    quotedChars (c :: rest) = c :: quotedChars rest := by
  unfold quotedChars
  rw [List.flatMap_cons, keyChar, if_neg hc, List.singleton_append]

/-- Characters other than backslashes are read as they are, quotes among them. -/
theorem literal?_quotedChars_cons_iff (hc : c ≠ '\\') :
    literal? (quotedChars (c :: rest) ++ text) = some (content, after) ↔
      ∃ more, content = c :: more ∧ literal? (quotedChars rest ++ text) = some (more, after) := by
  by_cases hquote : c = '\''
  · rw [hquote, quotedChars_cons_quote]
    exact Text.literal?_escape_iff
  · rw [quotedChars_cons hquote]
    exact Text.literal?_cons_iff hquote hc

theorem literal?_quotedChars_escape_iff (hc : c ≠ '\'') :
    literal? (quotedChars ('\\' :: c :: rest) ++ text) = some (content, after) ↔
      ∃ more, content = c :: more ∧ literal? (quotedChars rest ++ text) = some (more, after) := by
  rw [quotedChars_cons (by decide), quotedChars_cons hc]
  exact Text.literal?_escape_iff

/-- A backslash at the end of a name takes the closing quote along. -/
theorem literal?_quotedChars_last_ne :
    literal? (quotedChars ['\\'] ++ '\'' :: after) ≠ some (content, after) := by
  intro h
  obtain ⟨more, _, hmore⟩ := Text.literal?_escape_iff.mp h
  have hlt := Text.length_lt_of_literal? hmore
  omega

/-- A backslash before a quote takes the one along that is printed for the quote, which closes the literal. -/
theorem literal?_quotedChars_quote_ne :
    literal? (quotedChars ('\\' :: '\'' :: rest) ++ '\'' :: after) ≠ some (content, after) := by
  intro h
  obtain ⟨more, _, hmore⟩ := Text.literal?_escape_iff.mp h
  have hearly : quotedChars rest ++ '\'' :: after = after := congrArg Prod.snd (Option.some.inj hmore)
  have hlength := congrArg List.length hearly
  simp only [List.length_append, List.length_cons] at hlength
  omega

theorem readAs_of_literal?
    (h : literal? (quotedChars name ++ '\'' :: after) = some (content, after)) : ReadAs name content := by
  -- by length, since a backslash is read together with the character behind it
  induction hn : name.length using Nat.strongRecOn generalizing name content with
  | _ n ih =>
      cases name with
      | nil =>
          obtain rfl : [] = content := congrArg Prod.fst (Option.some.inj h)
          exact .nil
      | cons c rest =>
          rw [List.length_cons] at hn
          by_cases hc : c = '\\'
          · subst hc
            cases rest with
            | nil => exact absurd h literal?_quotedChars_last_ne
            | cons d rest =>
                rw [List.length_cons] at hn
                have hd : d ≠ '\'' := by
                  rintro rfl
                  exact literal?_quotedChars_quote_ne h
                obtain ⟨more, rfl, hmore⟩ := (literal?_quotedChars_escape_iff hd).mp h
                exact .escaped hd (ih rest.length (by omega) hmore rfl)
          · obtain ⟨more, rfl, hmore⟩ := (literal?_quotedChars_cons_iff hc).mp h
            exact .plain hc (ih rest.length (by omega) hmore rfl)

/-- The literal of a name is closed by its own last quote, whatever follows, exactly when the name can be
read with its backslashes as escapes, and what it is read as is the content. -/
theorem literal?_quotedChars_iff (after : List Char) :
    literal? (quotedChars name ++ '\'' :: after) = some (content, after) ↔ ReadAs name content := by
  constructor
  · exact readAs_of_literal?
  · intro h
    induction h with
    | nil => rfl
    | plain hc _ ih => exact (literal?_quotedChars_cons_iff hc).mpr ⟨_, rfl, ih⟩
    | escaped hc _ ih => exact (literal?_quotedChars_escape_iff hc).mpr ⟨_, rfl, ih⟩

/-! ## Different names -/

/-- Some characters without the backslashes before single quotes. -/
def withoutEscapes : List Char → List Char
  | [] => []
  | '\\' :: '\'' :: rest => '\'' :: withoutEscapes rest
  | c :: rest => c :: withoutEscapes rest

theorem withoutEscapes_cons (h : rest.head? ≠ some '\'') :
    withoutEscapes (c :: rest) = c :: withoutEscapes rest := by
  rw [withoutEscapes]
  rintro more rfl rfl
  exact h rfl

theorem head?_quotedChars_ne (name : List Char) : (quotedChars name).head? ≠ some '\'' := by
  cases name with
  | nil => simp [quotedChars]
  | cons c rest =>
      by_cases hc : c = '\''
      · rw [hc, quotedChars_cons_quote]
        simp
      · rw [quotedChars_cons hc]
        simpa using hc

/-- Quoting can be taken back, though not by reading. -/
theorem withoutEscapes_quotedChars (name : List Char) : withoutEscapes (quotedChars name) = name := by
  induction name with
  | nil => rfl
  | cons c rest ih =>
      by_cases hc : c = '\''
      · rw [hc, quotedChars_cons_quote, withoutEscapes, ih]
      · rw [quotedChars_cons hc, withoutEscapes_cons (head?_quotedChars_ne rest), ih]

theorem quotedChars_injective : Function.Injective quotedChars :=
  Function.LeftInverse.injective withoutEscapes_quotedChars

/-! ## Identifiers -/

theorem continuesIdentifier_of_begins (h : beginsIdentifier c = true) : continuesIdentifier c = true := by
  simp only [beginsIdentifier, continuesIdentifier, Bool.or_eq_true] at h ⊢
  exact h.imp_left (Or.imp_left Unicode.isAlphanumeric_of_isAlphabetic)

theorem continuesIdentifier_of_mem (h : isIdentifier name = true) (hmem : c ∈ name) :
    continuesIdentifier c = true := by
  cases name with
  | nil => exact absurd hmem List.not_mem_nil
  | cons first rest =>
      rw [isIdentifier, Bool.and_eq_true, List.all_eq_true] at h
      rcases List.mem_cons.mp hmem with rfl | hrest
      · exact continuesIdentifier_of_begins h.1
      · exact h.2 c hrest

theorem quote_not_mem_of_isIdentifier (h : isIdentifier name = true) : '\'' ∉ name := by
  intro hmem
  have hcontinues := continuesIdentifier_of_mem h hmem
  exact absurd hcontinues (by decide)

theorem backslash_not_mem_of_isIdentifier (h : isIdentifier name = true) : '\\' ∉ name := by
  intro hmem
  have hcontinues := continuesIdentifier_of_mem h hmem
  exact absurd hcontinues (by decide)

/-! ## Keys -/

theorem key_of_isIdentifier {name : String} (h : isIdentifier name.toList = true) : key name = name := by
  unfold key keyChars
  rw [if_pos h, String.ofList_toList]

theorem toList_key {name : String} (h : isIdentifier name.toList = false) :
    (key name).toList = '\'' :: (quotedChars name.toList ++ ['\'']) := by
  unfold key keyChars
  rw [h, String.toList_ofList]
  rfl

/-- No two names have the same key. -/
theorem key_injective : Function.Injective key := by
  intro a b heq
  -- an identifier has no quote, and a literal begins with one
  have hmixed : ∀ {x y : String}, isIdentifier x.toList = true → isIdentifier y.toList = false →
      key x ≠ key y := by
    intro x y hx hy hsame
    apply quote_not_mem_of_isIdentifier hx
    rw [← key_of_isIdentifier hx, hsame, toList_key hy]
    exact List.mem_cons_self
  cases ha : isIdentifier a.toList with
  | true =>
      cases hb : isIdentifier b.toList with
      | true => rw [← key_of_isIdentifier ha, heq, key_of_isIdentifier hb]
      | false => exact absurd heq (hmixed ha hb)
  | false =>
      cases hb : isIdentifier b.toList with
      | true => exact absurd heq.symm (hmixed hb ha)
      | false =>
          have hchars := congrArg String.toList heq
          rw [toList_key ha, toList_key hb] at hchars
          have hquoted := List.append_cancel_right (List.cons.inj hchars).2
          exact String.toList_inj.mp (quotedChars_injective hquoted)

/-- A text is a literal with some content: it begins with a quote, and its last character closes it and no
earlier one. -/
def IsLiteral (text : String) (content : List Char) : Prop :=
  ∃ inside, text.toList = '\'' :: inside ∧ literal? inside = some (content, [])

/-- A text is a key for a name: the name itself where it is an identifier, and else a literal that has the
name as its content. -/
inductive KeyFor (name text : String) : Prop
  | identifier (h : isIdentifier name.toList = true) (htext : text = name)
  | literal (h : isIdentifier name.toList = false) (hliteral : IsLiteral text name.toList)

/-- The key of a name that is no identifier is a literal exactly when the name can be read with its
backslashes as escapes. -/
theorem isLiteral_key_iff {name : String} (h : isIdentifier name.toList = false) :
    IsLiteral (key name) content ↔ ReadAs name.toList content := by
  unfold IsLiteral
  rw [toList_key h, ← literal?_quotedChars_iff []]
  constructor
  · rintro ⟨inside, hinside, hread⟩
    obtain rfl := (List.cons.inj hinside).2
    exact hread
  · intro hread
    exact ⟨_, rfl, hread⟩

/-- What is printed for a name is a key for it exactly when the name has no backslash. -/
theorem keyFor_key_iff {name : String} : KeyFor name (key name) ↔ '\\' ∉ name.toList := by
  cases h : isIdentifier name.toList with
  | true =>
      have hmem := backslash_not_mem_of_isIdentifier h
      exact iff_of_true (.identifier h (key_of_isIdentifier h)) hmem
  | false =>
      rw [← Text.readAs_self_iff, ← isLiteral_key_iff h]
      constructor
      · intro hkey
        cases hkey with
        | identifier hidentifier _ => exact absurd (h.symm.trans hidentifier) Bool.false_ne_true
        | literal _ hliteral => exact hliteral
      · exact .literal h

/-- The key of a name is a key for it exactly when the name has no backslash. Otherwise it is the literal of
what the name is read as, or none; and in any case it is the key of no other name. -/
theorem keys_of_names (name : String) :
    (KeyFor name (key name) ↔ '\\' ∉ name.toList) ∧
      (isIdentifier name.toList = false →
        ∀ content, IsLiteral (key name) content ↔ ReadAs name.toList content) ∧
      ∀ other, key other = key name → other = name := by
  refine ⟨keyFor_key_iff, ?_, ?_⟩
  · intro h content
    exact isLiteral_key_iff h
  · intro other heq
    exact key_injective heq

/-- A name with a backslash is not what its key stands for. -/
theorem not_keyFor_path : ¬ ∀ name : String, KeyFor name (key name) := by
  intro hall
  apply keyFor_key_iff.mp (hall "data\\label")
  decide

/-- It is another name that the key stands for, -/
example : literal? "data\\label'".toList = some ("datalabel".toList, []) := by decide

/-- and the quote of another one ends the key too early. -/
example : literal? "data\\\\'s'".toList = some ("data\\".toList, "s'".toList) := by decide

/-! ## Printed properties -/

variable {naming : Naming} {d : Declaration} {p : Property} {i : Interface}

/-- The key at the beginning of a text, and what stands behind it. -/
def readKey? : List Char → Option (List Char × List Char)
  | '\'' :: rest => literal? rest
  | text => some (text.takeWhile continuesIdentifier, text.dropWhile continuesIdentifier)

/-- Text that does not begin with a quote is read as long as it continues an identifier. -/
theorem readKey?_of_head?_ne (h : text.head? ≠ some '\'') :
    readKey? text = some (text.takeWhile continuesIdentifier, text.dropWhile continuesIdentifier) := by
  rw [readKey?]
  rintro rest rfl
  exact h rfl

theorem readKey?_of_isIdentifier (h : isIdentifier name = true)
    (hafter : ∀ c ∈ after.head?, continuesIdentifier c = false) :
    readKey? (name ++ after) = some (name, after) := by
  have hall : ∀ c ∈ name, continuesIdentifier c = true := by
    intro c hc
    exact continuesIdentifier_of_mem h hc
  have hhead : (name ++ after).head? ≠ some '\'' := by
    intro hquote
    apply quote_not_mem_of_isIdentifier h
    cases name with
    | nil => simp [isIdentifier] at h
    | cons first rest =>
        obtain rfl : first = '\'' := Option.some.inj hquote
        exact List.mem_cons_self
  rw [readKey?_of_head?_ne hhead, List.takeWhile_append_of_pos hall, List.dropWhile_append_of_pos hall]
  cases after with
  | nil => simp
  | cons c rest => simp [hafter c rfl]

/-- A key is read as its name, in front of anything that does not continue an identifier, exactly when the
name has no backslash. -/
theorem readKey?_key_iff {name : String} (hafter : ∀ c ∈ after.head?, continuesIdentifier c = false) :
    readKey? ((key name).toList ++ after) = some (name.toList, after) ↔ '\\' ∉ name.toList := by
  cases h : isIdentifier name.toList with
  | true =>
      rw [key_of_isIdentifier h]
      exact iff_of_true (readKey?_of_isIdentifier h hafter) (backslash_not_mem_of_isIdentifier h)
  | false =>
      rw [toList_key h, List.cons_append, List.append_assoc, ← Text.readAs_self_iff]
      exact literal?_quotedChars_iff after

theorem inside_declaration_property (hbody : d.body = .interface i) (h : p ∈ i.properties) :
    Inside (property naming p) (declaration naming d) := by
  apply inside_declaration_of_members hbody
  have hlisted : property naming p ∈ i.properties.map (property naming) := List.mem_map_of_mem h
  exact ((Inside.join hlisted).append_right _).append_right _

/-- In a printed interface every property has its key, and there it is read as the name of the property
exactly when that has no backslash. -/
theorem keys_of_declaration (hbody : d.body = .interface i) (h : p ∈ i.properties) :
    ∃ before after, declaration naming d = before ++ key p.name ++ after ∧
      (readKey? (key p.name ++ after).toList = some (p.name.toList, after.toList) ↔
        '\\' ∉ p.name.toList) := by
  have hinside : Inside (property naming p) (declaration naming d) :=
    inside_declaration_property hbody h
  obtain ⟨before, after, hdeclaration⟩ := hinside
  refine ⟨before ++ indent, (if p.nullable then "?" else "") ++ ": " ++ type naming p.type ++ ";" ++
    "\n" ++ after, ?_, ?_⟩
  · rw [hdeclaration, property, line]
    simp only [String.append_assoc]
  · rw [String.toList_append]
    apply readKey?_key_iff
    cases p.nullable <;> simp <;> decide

end Printed

end TypeGraph
