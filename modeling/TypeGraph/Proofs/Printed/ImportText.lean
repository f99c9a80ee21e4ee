import Mathlib.Data.List.TakeWhile
import TypeGraph.Proofs.Printed.Parts
import TypeGraph.Proofs.Target.Modules

/-!
# The text of imports

What a file says about its imports stands between its first line and its declarations: after an empty
line, one statement `import { name as localName } from 'specifier';` for each specifier, and nothing else
(`ImportBlock`). As long as names end at a blank or a comma and specifiers at a quote, the imports can be
read back from the file (`readImports_moduleText`).
-/

namespace TypeGraph.Printed

variable {g : Graph} {m : Module} {i : Import} {bound names rest : List Import}
  {demands : List (String × String)} {taken : List String} {name specifier s : String}

/-! ## What stands in a file -/

/-- The text of a name in an import statement, followed by its local name if that is another. -/
inductive Binding (i : Import) : String → Prop
  | same (h : i.name = i.localName) : Binding i i.name
  | renamed (h : i.name ≠ i.localName) : Binding i (i.name ++ " as " ++ i.localName)

/-- The text of several names, with commas between them. -/
inductive Bindings : List Import → String → Prop
  | one {i : Import} {s : String} (h : Binding i s) : Bindings [i] s
  | more {i : Import} {rest : List Import} {s t : String} (h : Binding i s) (hrest : Bindings rest t) :
      Bindings (i :: rest) (s ++ ", " ++ t)

/-- The statement that imports some names from a specifier. -/
inductive Statement (specifier : String) : List Import → String → Prop
  | mk {names : List Import} {s : String} (hspecifier : ∀ i ∈ names, i.specifier = specifier)
      (hnames : Bindings names s) :
      Statement specifier names ("import \x7b " ++ s ++ " \x7d from '" ++ specifier ++ "';\n")

/-- Import statements one after the other, each for another specifier. -/
inductive Statements : List Import → String → Prop
  | nil : Statements [] ""
  | cons {specifier s t : String} {names rest : List Import} (h : Statement specifier names s)
      (hnew : ∀ i ∈ rest, i.specifier ≠ specifier) (hrest : Statements rest t) :
      Statements (names ++ rest) (s ++ t)

/-- What a file says about its imports: nothing if there are none, and else an empty line and their
statements. -/
inductive ImportBlock : List Import → String → Prop
  | none : ImportBlock [] ""
  | some {bound : List Import} {s : String} (hsome : bound ≠ []) (h : Statements bound s) :
      ImportBlock bound ("\n" ++ s)

theorem binding_importedName (i : Import) : Binding i (importedName i) := by
  unfold importedName
  split
  · rename_i h
    exact .same h
  · rename_i h
    exact .renamed h

theorem bindings_of_ne_nil (h : names ≠ []) :
    Bindings names (String.intercalate ", " (names.map importedName)) := by
  induction names with
  | nil => exact absurd rfl h
  | cons first rest ih =>
      cases rest with
      | nil =>
          rw [List.map_singleton, String.intercalate_singleton]
          exact .one (binding_importedName first)
      | cons second others =>
          rw [List.map_cons, List.map_cons, String.intercalate_cons_cons]
          exact .more (binding_importedName first) (ih (List.cons_ne_nil _ _))

theorem statement_importStatement (hsome : names ≠ []) (h : ∀ i ∈ names, i.specifier = specifier) :
    Statement specifier names (importStatement specifier names) :=
  .mk h (bindings_of_ne_nil hsome)

theorem Bindings.ne_nil (h : Bindings names s) : names ≠ [] := by
  cases h <;> exact List.cons_ne_nil _ _

/-- A statement is no empty text and imports something. -/
theorem Statement.nonempty (h : Statement specifier names s) :
    0 < s.toList.length ∧ ∃ i ∈ names, i.specifier = specifier := by
  obtain ⟨hspecifier, hnames⟩ := h
  obtain ⟨i, hi⟩ := List.exists_mem_of_ne_nil _ hnames.ne_nil
  exact ⟨by simp, i, hi, hspecifier i hi⟩

/-! ## Runs of one specifier -/

/-- The runs hold all imports, in order. -/
theorem flatMap_bySpecifier (bound : List Import) : (bySpecifier bound).flatMap (·.2) = bound := by
  induction bound with
  | nil => rfl
  | cons i rest ih =>
      rw [bySpecifier]
      split
      · rename_i specifier names others hruns
        rw [hruns] at ih
        split <;> simp [← ih]
      · rename_i hruns
        rw [hruns] at ih
        simp [← ih]

/-- The imports of a run have its specifier, and there are some. -/
theorem of_mem_bySpecifier (run : String × List Import) (h : run ∈ bySpecifier bound) :
    run.2 ≠ [] ∧ ∀ i ∈ run.2, i.specifier = run.1 := by
  induction bound generalizing run with
  | nil => simp [bySpecifier] at h
  | cons i rest ih =>
      rw [bySpecifier] at h
      split at h
      · rename_i specifier names others hruns
        split at h
        · rename_i hsame
          rcases List.mem_cons.mp h with rfl | hother
          · obtain ⟨_, hnames⟩ := ih (specifier, names) (hruns ▸ List.mem_cons_self)
            exact ⟨List.cons_ne_nil _ _, List.forall_mem_cons.mpr ⟨hsame, hnames⟩⟩
          · exact ih run (hruns ▸ List.mem_cons_of_mem _ hother)
        · rcases List.mem_cons.mp h with rfl | hother
          · exact ⟨List.cons_ne_nil _ _, by simp⟩
          · exact ih run (hruns ▸ hother)
      · obtain rfl := List.mem_singleton.mp h
        exact ⟨List.cons_ne_nil _ _, by simp⟩

theorem exists_of_mem_bySpecifier {run : String × List Import} (h : run ∈ bySpecifier bound) :
    ∃ i ∈ bound, i.specifier = run.1 := by
  obtain ⟨hsome, hsame⟩ := of_mem_bySpecifier run h
  obtain ⟨i, hi⟩ := List.exists_mem_of_ne_nil _ hsome
  refine ⟨i, ?_, hsame i hi⟩
  rw [← flatMap_bySpecifier bound]
  exact List.mem_flatMap.mpr ⟨run, h, hi⟩

/-- Imports that are ordered by their specifiers have one run for each. -/
theorem ascending_bySpecifier (h : bound.Pairwise fun i j => i.specifier ≤ j.specifier) :
    ((bySpecifier bound).map (·.1)).Pairwise (· < ·) := by
  induction bound with
  | nil => exact .nil
  | cons i rest ih =>
      obtain ⟨hfirst, hrest⟩ := List.pairwise_cons.mp h
      have hruns := ih hrest
      rw [bySpecifier]
      split
      · rename_i specifier names others hby
        rw [hby, List.map_cons] at hruns
        split
        · exact hruns
        · rename_i hother
          -- the specifiers of the other runs are not before that of the first of them
          have hle : i.specifier ≤ specifier := by
            obtain ⟨j, hj, rfl⟩ : ∃ j ∈ rest, j.specifier = specifier :=
              exists_of_mem_bySpecifier (hby ▸ List.mem_cons_self)
            exact hfirst j hj
          have hlt : i.specifier < specifier :=
            lt_of_not_lt_of_ne (String.not_lt.mpr hle) (Ne.symm hother)
          rw [List.map_cons, List.pairwise_cons]
          refine ⟨?_, hruns⟩
          intro t ht
          rcases List.mem_cons.mp ht with rfl | ht
          · exact hlt
          · exact String.lt_trans hlt ((List.pairwise_cons.mp hruns).1 t ht)
      · exact List.pairwise_singleton _ _

/-- Runs of different specifiers are printed as statements. -/
theorem statements_of_runs {runs : List (String × List Import)}
    (h : ∀ run ∈ runs, run.2 ≠ [] ∧ ∀ i ∈ run.2, i.specifier = run.1)
    (hdistinct : (runs.map (·.1)).Pairwise (· < ·)) :
    Statements (runs.flatMap (·.2))
      (String.join (runs.map fun (specifier, names) => importStatement specifier names)) := by
  induction runs with
  | nil => exact .nil
  | cons run others ih =>
      obtain ⟨⟨hsome, hsame⟩, hothers⟩ := List.forall_mem_cons.mp h
      obtain ⟨hlt, hrest⟩ := List.pairwise_cons.mp hdistinct
      rw [List.flatMap_cons, List.map_cons, String.join_cons]
      refine .cons (statement_importStatement hsome hsame) ?_ (ih hothers hrest)
      intro i hi
      obtain ⟨other, hmem, hi⟩ := List.mem_flatMap.mp hi
      rw [(hothers other hmem).2 i hi]
      rintro heq
      exact String.lt_irrefl _ (heq ▸ hlt other.1 (List.mem_map_of_mem hmem))

/-! ## The imports of a module -/

/-- Binding gives every demand its import, in order. -/
theorem map_bindAll (demands : List (String × String)) (taken : List String) :
    (bindAll demands taken).map (fun i => (i.specifier, i.name)) = demands := by
  induction demands generalizing taken with
  | nil => rfl
  | cons demand rest ih =>
      obtain ⟨specifier, name⟩ := demand
      rw [bindAll, List.map_cons, ih]

/-- What is demanded is ordered by specifiers. -/
theorem Demand.ascending_toList (demand : Demand) :
    demand.toList.Pairwise fun a b => a.1 ≤ b.1 := by
  rw [toList, List.pairwise_flatMap]
  refine ⟨?_, ?_⟩
  · intro entry _
    exact List.pairwise_map.mpr (List.Pairwise.imp (fun _ => String.le_refl entry.1) entry.2.ascending)
  · refine (List.pairwise_map.mp demand.ascending).imp ?_
    rintro first second hlt a ha b hb
    obtain ⟨_, _, rfl⟩ := List.mem_map.mp ha
    obtain ⟨_, _, rfl⟩ := List.mem_map.mp hb
    exact String.not_lt.mp fun hgt => String.lt_irrefl _ (String.lt_trans hlt hgt)

/-- Between the first line and the declarations of a module, its imports are stated and nothing else. -/
theorem importBlock_boundIn (g : Graph) (m : Module) :
    ImportBlock (boundIn g m) (importBlock (boundIn g m)) := by
  have hascending : (boundIn g m).Pairwise fun i j => i.specifier ≤ j.specifier := by
    have hdemand := (demandOf g m.path (g.declarationsOf m)).ascending_toList
    rw [← map_bindAll (demandOf g m.path (g.declarationsOf m)).toList, List.pairwise_map] at hdemand
    exact hdemand
  unfold importBlock
  split
  · rename_i hnone
    rw [List.isEmpty_iff.mp hnone]
    exact .none
  · rename_i hsome
    have hstatements := statements_of_runs of_mem_bySpecifier
      (ascending_bySpecifier hascending)
    rw [flatMap_bySpecifier] at hstatements
    exact .some (by simpa using hsome) hstatements

/-- Every import of a block is in one of its statements. -/
theorem Statements.exists_statement (h : Statements bound s) (hi : i ∈ bound) :
    ∃ names t, i ∈ names ∧ Statement i.specifier names t ∧ Inside t s := by
  induction h with
  | nil => exact absurd hi List.not_mem_nil
  | @cons specifier s t names rest hfirst _ _ ih =>
      rcases List.mem_append.mp hi with hnames | hrest
      · have hsame : i.specifier = specifier := by
          cases hfirst with
          | mk hspecifier => exact hspecifier i hnames
        exact ⟨names, s, hnames, hsame ▸ hfirst, (Inside.refl s).append_right t⟩
      · obtain ⟨others, u, hmem, hstatement, hinside⟩ := ih hrest
        exact ⟨others, u, hmem, hstatement, hinside.append_left s⟩

theorem ImportBlock.exists_statement (h : ImportBlock bound s) (hi : i ∈ bound) :
    ∃ names t, i ∈ names ∧ Statement i.specifier names t ∧ Inside t s := by
  cases h with
  | none => exact absurd hi List.not_mem_nil
  | some _ h =>
      obtain ⟨names, t, hmem, hstatement, hinside⟩ := h.exists_statement hi
      exact ⟨names, t, hmem, hstatement, hinside.append_left _⟩

/-- Every import of a module is in a statement of its text. -/
theorem inside_statement (hi : i ∈ boundIn g m) :
    ∃ names t, i ∈ names ∧ Statement i.specifier names t ∧ Inside t (moduleText g m) := by
  obtain ⟨names, t, hmem, hstatement, hinside⟩ := (importBlock_boundIn g m).exists_statement hi
  rw [moduleText_eq]
  exact ⟨names, t, hmem, hstatement, (hinside.append_left _).append_right _⟩

/-! ## Reading imports -/

/-- Whether a character can be read as part of a name. -/
def isNameChar (c : Char) : Bool := c != ' ' && c != ','

/-- A name ends where the next blank or comma is. -/
def Legible (name : String) : Prop := ∀ c ∈ name.toList, isNameChar c = true

/-- Reads a name, up to a blank or a comma. -/
def readName (text : List Char) : String × List Char :=
  (String.ofList (text.takeWhile isNameChar), text.dropWhile isNameChar)

/-- Reads a name with its local name, which is the name itself when no other is given. -/
def readBinding (text : List Char) : (String × String) × List Char :=
  match (readName text).2.dropPrefix? " as ".toList with
  | some rest => (((readName text).1, (readName rest).1), (readName rest).2)
  | none => (((readName text).1, (readName text).1), (readName text).2)

/-- Reads the names of a statement, as long as there are commas, in at most a number of turns. -/
def readBindings : Nat → List Char → List (String × String) × List Char
  | 0, text => ([], text)
  | turns + 1, text =>
    match (readBinding text).2.dropPrefix? ", ".toList with
    | some more => ((readBinding text).1 :: (readBindings turns more).1, (readBindings turns more).2)
    | none => ([(readBinding text).1], (readBinding text).2)

/-- Reads an import statement: what it imports, and what follows it. -/
def readStatement (text : List Char) : Option (List Import × List Char) := do
  let text ← text.dropPrefix? "import \x7b ".toList
  let (names, text) := readBindings text.length text
  let text ← text.dropPrefix? " \x7d from '".toList
  let specifier := String.ofList (text.takeWhile (· != '\''))
  let text ← (text.dropWhile (· != '\'')).dropPrefix? "';\n".toList
  return (names.map fun (name, localName) => { specifier, name, localName }, text)

/-- Reads import statements, in at most a number of turns. -/
def readStatements : Nat → List Char → List Import
  | 0, _ => []
  | turns + 1, text =>
    match readStatement text with
    | some (names, rest) => names ++ readStatements turns rest
    | none => []

/-- Reads the imports of a file, behind its first line and an empty one. -/
def readImports (text : String) : List Import :=
  match text.toList.dropPrefix? "// Generated by tsbridge. Do not edit.\n\n".toList with
  | some rest => readStatements rest.length rest
  | none => []

/-! ## What is read from a file -/

variable {text : List Char} {turns : Nat}

theorem dropPrefix?_append (before text : List Char) :
    (before ++ text).dropPrefix? before = some text :=
  List.dropPrefix?_append_of_beq text (beq_self_eq_true before)

/-- What is read up to a boundary ends there. -/
theorem span_append {p : Char → Bool} {before : List Char} (h : ∀ c ∈ before, p c = true)
    (hend : ∀ c ∈ text.head?, p c = false) :
    (before ++ text).takeWhile p = before ∧ (before ++ text).dropWhile p = text := by
  rw [List.takeWhile_append_of_pos h, List.dropWhile_append_of_pos h]
  cases text with
  | nil => exact ⟨List.append_nil before, rfl⟩
  | cons c rest =>
      have hc : ¬ p c = true := by simp [hend c rfl]
      rw [List.takeWhile_cons_of_neg hc, List.dropWhile_cons_of_neg hc]
      exact ⟨List.append_nil before, rfl⟩

theorem readName_append (h : Legible name) (hend : ∀ c ∈ text.head?, isNameChar c = false) :
    readName (name.toList ++ text) = (name, text) := by
  obtain ⟨htake, hdrop⟩ := span_append h hend
  rw [readName, htake, hdrop, String.ofList_toList]

/-- A name of a statement is read with its local name. -/
theorem readBinding_append (h : Binding i s) (hname : Legible i.name) (hlocal : Legible i.localName)
    (hend : ∀ c ∈ text.head?, isNameChar c = false) (hlast : text.dropPrefix? " as ".toList = none) :
    readBinding (s.toList ++ text) = ((i.name, i.localName), text) := by
  cases h with
  | same h =>
      rw [readBinding, readName_append hname hend]
      simp only [hlast, ← h]
  | renamed h =>
      have htext : (i.name ++ " as " ++ i.localName).toList ++ text =
          i.name.toList ++ (" as ".toList ++ (i.localName.toList ++ text)) := by
        simp only [String.toList_append, List.append_assoc]
      have hblank : ∀ c ∈ (" as ".toList ++ (i.localName.toList ++ text)).head?,
          isNameChar c = false := by simp [isNameChar]
      rw [htext, readBinding, readName_append hname hblank]
      simp only [dropPrefix?_append, readName_append hlocal hend]

theorem readBindings_append (h : Bindings names s)
    (hlegible : ∀ i ∈ names, Legible i.name ∧ Legible i.localName) (hturns : s.toList.length < turns)
    (text : List Char) : readBindings turns (s.toList ++ (" \x7d from '".toList ++ text)) =
      (names.map fun i => (i.name, i.localName), " \x7d from '".toList ++ text) := by
  induction h generalizing turns with
  | @one i s h =>
      obtain ⟨hname, hlocal⟩ := hlegible i (List.mem_singleton.mpr rfl)
      obtain ⟨turns, rfl⟩ : ∃ n, turns = n + 1 := ⟨turns - 1, by omega⟩
      have hbinding := @readBinding_append _ _ (" \x7d from '".toList ++ text) h hname hlocal
        (by simp [isNameChar]) (by simp [List.dropPrefix?])
      simp only [readBindings, hbinding]
      simp [List.dropPrefix?]
  | @more i rest s t h hrest ih =>
      obtain ⟨⟨hname, hlocal⟩, hothers⟩ := List.forall_mem_cons.mp hlegible
      obtain ⟨turns, rfl⟩ : ∃ n, turns = n + 1 := ⟨turns - 1, by omega⟩
      have htext : (s ++ ", " ++ t).toList ++ (" \x7d from '".toList ++ text) =
          s.toList ++ (", ".toList ++ (t.toList ++ (" \x7d from '".toList ++ text))) := by
        simp only [String.toList_append, List.append_assoc]
      have hbinding := @readBinding_append _ _ (", ".toList ++ (t.toList ++ (" \x7d from '".toList ++ text)))
        h hname hlocal (by simp [isNameChar]) (by simp [List.dropPrefix?])
      have hlength : t.toList.length < turns := by
        have hcomma : ", ".toList.length = 2 := rfl
        simp only [String.toList_append, List.length_append, hcomma] at hturns
        omega
      rw [htext]
      simp only [readBindings, hbinding, dropPrefix?_append, ih hothers hlength, List.map_cons]

/-- An import statement is read as what it imports. -/
theorem readStatement_append (h : Statement specifier names s)
    (hlegible : ∀ i ∈ names, Legible i.name ∧ Legible i.localName) (hquote : '\'' ∉ specifier.toList)
    (text : List Char) : readStatement (s.toList ++ text) = some (names, text) := by
  obtain ⟨hspecifier, hnames⟩ := h
  rename_i bindings
  set quoted := specifier.toList ++ ("';\n".toList ++ text)
  have htext : ("import \x7b " ++ bindings ++ " \x7d from '" ++ specifier ++ "';\n").toList ++ text =
      "import \x7b ".toList ++ (bindings.toList ++ (" \x7d from '".toList ++ quoted)) := by
    simp only [quoted, String.toList_append, List.append_assoc]
  have hbindings : readBindings (bindings.toList ++ (" \x7d from '".toList ++ quoted)).length
      (bindings.toList ++ (" \x7d from '".toList ++ quoted)) =
        (names.map fun i => (i.name, i.localName), " \x7d from '".toList ++ quoted) :=
    readBindings_append hnames hlegible (by simp) quoted
  obtain ⟨htake, hdrop⟩ : quoted.takeWhile (· != '\'') = specifier.toList ∧
      quoted.dropWhile (· != '\'') = "';\n".toList ++ text := by
    refine span_append (fun c hc => ?_) (by simp)
    have hne : c ≠ '\'' := fun heq => hquote (heq ▸ hc)
    simpa using hne
  have hsame : names.map (fun i => ({ specifier, name := i.name, localName := i.localName } : Import)) =
      names := by
    conv_rhs => rw [← List.map_id names]
    refine List.map_congr_left fun i hi => ?_
    rw [← hspecifier i hi]
    rfl
  rw [htext, readStatement]
  simp only [dropPrefix?_append, hbindings, htake, hdrop, Option.bind_eq_bind, Option.bind_some,
    String.ofList_toList, List.map_map, Function.comp_def, hsame]
  rfl

theorem readStatements_of_none (h : readStatement text = none) : readStatements turns text = [] := by
  cases turns with
  | zero => rfl
  | succ turns => rw [readStatements, h]

theorem readStatements_append (h : Statements bound s)
    (hlegible : ∀ i ∈ bound, (Legible i.name ∧ Legible i.localName) ∧ '\'' ∉ i.specifier.toList)
    (hturns : s.toList.length ≤ turns) (hend : readStatement text = none) :
    readStatements turns (s.toList ++ text) = bound := by
  induction h generalizing turns with
  | nil => exact readStatements_of_none hend
  | @cons specifier s t names rest h hnew hrest ih =>
      obtain ⟨hnames, hothers⟩ := List.forall_mem_append.mp hlegible
      obtain ⟨hpos, i, hi, hspecifier⟩ := h.nonempty
      have hlength : s.toList.length + t.toList.length ≤ turns := by simpa using hturns
      obtain ⟨turns, rfl⟩ : ∃ n, turns = n + 1 := ⟨turns - 1, by omega⟩
      have hread := @ih turns hothers (by omega)
      rw [String.toList_append, List.append_assoc, readStatements,
        readStatement_append h (fun i hi => (hnames i hi).1) (hspecifier ▸ (hnames i hi).2)]
      simp only [hread]

/-! ## Local names -/

theorem isNameChar_of_isWordChar {c : Char} (h : isWordChar c = true) : isNameChar c = true := by
  have hne : c ≠ ' ' ∧ c ≠ ',' := by
    constructor <;> rintro rfl <;> exact absurd h (by decide)
  simpa [isNameChar] using hne

theorem Legible.append {a b : String} (ha : Legible a) (hb : Legible b) : Legible (a ++ b) := by
  intro c hc
  rw [String.toList_append] at hc
  exact (List.mem_append.mp hc).elim (ha c) (hb c)

theorem legible_lastWord (specifier : String) : Legible (lastWord specifier) := by
  unfold Legible lastWord
  simp only
  split
  · simp [isNameChar]
  · intro c hc
    rw [String.toList_ofList, List.mem_reverse] at hc
    exact isNameChar_of_isWordChar (List.mem_takeWhile_imp hc)

theorem legible_attempt (h : Legible name) (n : Nat) : Legible (attempt name n) := by
  cases n with
  | zero => exact h
  | succ n =>
      refine h.append fun c hc => ?_
      have hdigit : c.isDigit = true := by
        have hc : c ∈ Nat.toDigits 10 (n + 2) := by rwa [← Nat.toList_repr]
        exact Nat.isDigit_of_mem_toDigits (by decide) (by decide) hc
      exact isNameChar_of_isWordChar (by simp [isWordChar, Char.isAlphanum, hdigit])

/-- The local name of an import is legible when its name is. -/
theorem legible_localNameFor (h : Legible name) (specifier : String) (taken : List String) :
    Legible (localNameFor name specifier taken) := by
  unfold localNameFor
  split
  · obtain ⟨k, hattempt, _⟩ :=
      freshName_eq_attempt (name ++ "_" ++ lastWord specifier) taken
    rw [importAlias, hattempt]
    have hmark : Legible "_" := by simp [Legible, isNameChar]
    exact legible_attempt ((h.append hmark).append (legible_lastWord specifier)) k
  · exact h

theorem legible_localName (h : i ∈ bindAll demands taken) (hname : Legible i.name) :
    Legible i.localName := by
  induction demands generalizing taken with
  | nil => exact absurd h List.not_mem_nil
  | cons demand others ih =>
      rcases List.mem_cons.mp h with rfl | hother
      · exact legible_localNameFor hname _ _
      · exact ih hother

/-! ## Reading the file of a module -/

/-- What comes after the imports is not taken for one. -/
theorem readStatement_declarations (naming : Naming) (declarations : List Declaration) :
    readStatement (String.join (declarations.map fun d => "\n" ++ declaration naming d)).toList =
      none := by
  cases declarations with
  | nil => simp [readStatement, List.dropPrefix?]
  | cons d rest => simp [readStatement, List.dropPrefix?]

theorem readStatement_of_exports (h : Exports name s) (text : List Char) :
    readStatement (s.toList ++ text) = none := by
  obtain ⟨keyword, _, rest, rfl, _⟩ := h
  simp [readStatement, List.dropPrefix?]

/-- The imports that a file states are read from it. -/
theorem readImports_of_block {block : String} (h : ImportBlock bound block)
    (hlegible : ∀ i ∈ bound, (Legible i.name ∧ Legible i.localName) ∧ '\'' ∉ i.specifier.toList)
    (naming : Naming) (declarations : List Declaration) :
    readImports (header ++ block ++
      String.join (declarations.map fun d => "\n" ++ declaration naming d)) = bound := by
  set after := String.join (declarations.map fun d => "\n" ++ declaration naming d)
  have hafter : readStatement after.toList = none := readStatement_declarations naming declarations
  have hfirst : "// Generated by tsbridge. Do not edit.\n\n".toList = (header ++ "\n").toList := rfl
  rw [readImports, hfirst]
  cases h with
  | none =>
      cases hcases : declarations with
      | nil => simp [after, hcases, header, List.dropPrefix?]
      | cons d rest =>
          have htext : (header ++ "" ++ after).toList =
              (header ++ "\n").toList ++ ((declaration naming d).toList ++ (String.join
                (rest.map fun d => "\n" ++ declaration naming d)).toList) := by
            simp [after, hcases]
          rw [htext, dropPrefix?_append]
          exact readStatements_of_none (readStatement_of_exports (exports_declaration naming d) _)
  | @some _ s _ h =>
      have htext : (header ++ ("\n" ++ s) ++ after).toList =
          (header ++ "\n").toList ++ (s.toList ++ after.toList) := by
        simp
      rw [htext, dropPrefix?_append]
      exact readStatements_append h hlegible (by simp) hafter

/-- The imports of a module are read from its file, if names and specifiers can be told from what stands
around them. -/
theorem readImports_moduleText
    (h : ∀ i ∈ boundIn g m, Legible i.name ∧ '\'' ∉ i.specifier.toList) :
    readImports (moduleText g m) = boundIn g m := by
  rw [moduleText_eq]
  refine readImports_of_block (importBlock_boundIn g m) ?_ _ _
  intro i hi
  obtain ⟨hname, hquote⟩ := h i hi
  exact ⟨⟨hname, legible_localName hi hname⟩, hquote⟩

end TypeGraph.Printed
