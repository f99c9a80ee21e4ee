import Mathlib.Data.List.DropRight
import TypeGraph.Printed.Imports
import TypeGraph.Proofs.Target.LinkedTree

/-!
# Names that are bound

Names are bound in two places: a module reserves one for each of its declarations, and the file of a module
one for each of its imports. Both search for a name that is free (`FreshFor`). Reserving a name adds one entry
to one module (`LinkedTree.Adds`). The alias of an import is formed with the last word of its specifier, of
which there is exactly one (`suffixOf_iff`).
-/

namespace TypeGraph

/-! ## Reserved names -/

namespace LinkedTree

variable {t : LinkedTree} {id : Nat} {m : LinkedModule}

/-- A tree is another one with an entry added to the module with a number. -/
structure Adds (t t' : LinkedTree) (id : Nat) (name source : String) : Prop where
  roots : t'.roots = t.roots
  others : ∀ n, n ≠ id → t'.modules[n]? = t.modules[n]?
  /-- Of the module itself all but its names stays as it is, and they have one entry more. -/
  names : ∀ m, t.modules[id]? = some m → name ∉ m.names.keys ∧
    ∃ names : NameMap String, t'.modules[id]? = some { m with names } ∧
      ∀ entry, entry ∈ names.entries ↔ entry = (name, source) ∨ entry ∈ m.names.entries

/-- Reserving a name adds it, and changes nothing else. -/
theorem adds_claim (h : t.modules[id]? = some m) (preferred source : String) :
    t.Adds (t.claim id preferred source).2 id (t.claim id preferred source).1 source := by
  rw [claim_eq h]
  refine ⟨rfl, ?_, ?_⟩
  · intro n hn
    rw [List.getElem?_modify_ne _ _ (Ne.symm hn)]
  · intro m' hm'
    obtain rfl : m = m' := Option.some.inj (h.symm.trans hm')
    have hfree := freshName_not_mem preferred m.names.keys
    refine ⟨hfree, m.names.insert (freshName preferred m.names.keys) source, ?_, ?_⟩
    · rw [List.getElem?_modify_eq, h]
      rfl
    · rintro ⟨key, value⟩
      rw [NameMap.mem_entries_insert_iff, Prod.mk.injEq]
      -- no entry is replaced, since the name had none
      have hkey : (key, value) ∈ m.names.entries → key ≠ freshName preferred m.names.keys := by
        rintro hmem rfl
        exact hfree (NameMap.mem_keys_iff.mpr ⟨value, hmem⟩)
      constructor
      · exact Or.imp_right And.right
      · exact Or.imp_right fun hmem => ⟨hkey hmem, hmem⟩

/-- When links agree with paths, reserving a name by the number of a module is doing so by its path. -/
theorem reserve_tree (h : t.Linked) (hm : t.modules[id]? = some m) (preferred source : String) :
    t.tree.reserve m.path preferred source =
      ((t.claim id preferred source).1, (t.claim id preferred source).2.tree) := by
  refine Prod.ext ?_ ?_
  · rw [claim_eq hm, ModuleTree.reserve, ModuleTree.freeName, h.namesAt_tree hm]
  · have hbare : t.tree.modules[id]? = some m.bare := by
      rw [tree, List.getElem?_map, hm, Option.map_some]
    rw [tree_claim h, ModuleTree.perform, hbare]
    rfl

end LinkedTree

/-! ## Aliases -/

namespace Printed

variable {specifier suffix : String}

/-- What an alias is formed with: the last word of the specifier, which begins and ends where it cannot
be made longer, or `import` if there is none. -/
inductive SuffixOf (specifier : String) : String → Prop
  | word {before word after : String} (htext : specifier = before ++ word ++ after) (hsome : word ≠ "")
      (hword : ∀ c ∈ word.toList, isWordChar c = true)
      (hbefore : ∀ c ∈ before.toList.getLast?, isWordChar c = false)
      (hafter : ∀ c ∈ after.toList, isWordChar c = false) : SuffixOf specifier word
  | none (h : ∀ c ∈ specifier.toList, isWordChar c = false) : SuffixOf specifier "import"

/-- A specifier without what stands behind its last word. -/
def trimmed (specifier : String) : List Char := specifier.toList.rdropWhile (!isWordChar ·)

theorem trimmed_append (specifier : String) :
    trimmed specifier ++ specifier.toList.rtakeWhile (!isWordChar ·) = specifier.toList :=
  List.rdropWhile_append_rtakeWhile

theorem isWordChar_of_mem_getLast? {c : Char} (h : c ∈ (trimmed specifier).getLast?) :
    isWordChar c = true := by
  unfold trimmed at h
  obtain ⟨hne, rfl⟩ := List.mem_getLast?_eq_getLast h
  simpa using List.rdropWhile_last_not (!isWordChar ·) specifier.toList hne

theorem lastWord_eq (specifier : String) : lastWord specifier =
    if ((trimmed specifier).rtakeWhile isWordChar).isEmpty then "import"
    else String.ofList ((trimmed specifier).rtakeWhile isWordChar) := by
  simp [lastWord, trimmed, List.rdropWhile, List.rtakeWhile]

/-- A specifier has one suffix at least. -/
theorem suffixOf_lastWord (specifier : String) : SuffixOf specifier (lastWord specifier) := by
  rw [lastWord_eq]
  split
  · rename_i hempty
    rw [List.isEmpty_iff, List.rtakeWhile_eq_nil_iff] at hempty
    have hnil : trimmed specifier = [] := by
      by_contra hne
      exact hempty hne (isWordChar_of_mem_getLast? (List.getLast_mem_getLast? hne))
    refine .none fun c hc => ?_
    simpa using List.rdropWhile_eq_nil_iff.mp hnil c hc
  · rename_i hsome
    have hword : (trimmed specifier).rdropWhile isWordChar ++ (trimmed specifier).rtakeWhile isWordChar =
        trimmed specifier := List.rdropWhile_append_rtakeWhile
    refine @SuffixOf.word specifier (String.ofList ((trimmed specifier).rdropWhile isWordChar)) _
      (String.ofList (specifier.toList.rtakeWhile (!isWordChar ·))) ?_ ?_ ?_ ?_ ?_
    · rw [← String.ofList_append, ← String.ofList_append, hword, trimmed_append, String.ofList_toList]
    · simpa [← String.toList_inj] using hsome
    · intro c hc
      rw [String.toList_ofList] at hc
      exact List.mem_rtakeWhile_imp hc
    · intro c hc
      rw [String.toList_ofList] at hc
      obtain ⟨hne, rfl⟩ := List.mem_getLast?_eq_getLast hc
      simpa using List.rdropWhile_last_not isWordChar (trimmed specifier) hne
    · intro c hc
      rw [String.toList_ofList] at hc
      simpa using List.mem_rtakeWhile_imp hc

/-- A specifier has one suffix at most. -/
theorem SuffixOf.eq_lastWord (h : SuffixOf specifier suffix) : suffix = lastWord specifier := by
  cases h with
  | @word before word after htext hsome hword hbefore hafter =>
      have hreverse : specifier.toList.reverse =
          after.toList.reverse ++ (suffix.toList.reverse ++ before.toList.reverse) := by
        rw [htext]
        simp
      have hdrop : specifier.toList.reverse.dropWhile (!isWordChar ·) =
          suffix.toList.reverse ++ before.toList.reverse := by
        rw [hreverse, List.dropWhile_append_of_pos (by simpa using hafter)]
        have hne : suffix.toList.reverse ≠ [] := by simpa using hsome
        obtain ⟨c, rest, hcons⟩ := List.exists_cons_of_ne_nil hne
        have hc : isWordChar c = true := hword c (List.mem_reverse.mp (hcons ▸ List.mem_cons_self))
        rw [hcons, List.cons_append, List.dropWhile_cons_of_neg (by simp [hc])]
      have htake : (suffix.toList.reverse ++ before.toList.reverse).takeWhile isWordChar =
          suffix.toList.reverse := by
        rw [List.takeWhile_append_of_pos (by simpa using hword)]
        rw [← List.head?_reverse] at hbefore
        cases hcons : before.toList.reverse with
        | nil => simp
        | cons c rest =>
            have hc : isWordChar c = false := hbefore c (by simp [hcons])
            rw [List.takeWhile_cons_of_neg (by simp [hc]), List.append_nil]
      simp [lastWord, hdrop, htake, hsome]
  | none h =>
      have hdrop : specifier.toList.reverse.dropWhile (!isWordChar ·) = [] :=
        List.dropWhile_eq_nil_iff.mpr (by simpa using h)
      simp [lastWord, hdrop]

theorem suffixOf_iff : SuffixOf specifier suffix ↔ suffix = lastWord specifier :=
  ⟨SuffixOf.eq_lastWord, fun h => h ▸ suffixOf_lastWord specifier⟩

end Printed

/-! ## Both -/

/-- The name of a declaration and the alias of an import are found by the same search: it is the preferred name
if that is free, and otherwise that with the least number from two on that makes it free, after at most one
attempt more than there are taken names. For a declaration the name is then entered into its module, and
nothing else changes; for an import the preferred alias is its name with the last word of its specifier. -/
theorem bindings_fresh :
    (∀ (t : LinkedTree) (id : Nat) (m : LinkedModule), t.modules[id]? = some m →
      ∀ preferred source : String,
        FreshFor preferred m.names.keys (t.claim id preferred source).1 ∧
          t.Adds (t.claim id preferred source).2 id (t.claim id preferred source).1 source ∧
          (t.Linked → t.tree.reserve m.path preferred source =
            ((t.claim id preferred source).1, (t.claim id preferred source).2.tree))) ∧
      ∀ (name specifier : String) (taken : List String),
        ∃ suffix, (∀ s, Printed.SuffixOf specifier s ↔ s = suffix) ∧
          FreshFor (name ++ "_" ++ suffix) taken (Printed.importAlias name specifier taken) := by
  refine ⟨?_, ?_⟩
  · intro t id m hm preferred source
    refine ⟨?_, LinkedTree.adds_claim hm preferred source, ?_⟩
    · rw [LinkedTree.claim_eq hm]
      exact freshFor_freshName preferred m.names.keys
    · intro h
      exact LinkedTree.reserve_tree h hm preferred source
  · intro name specifier taken
    exact ⟨Printed.lastWord specifier, fun _ => Printed.suffixOf_iff, freshFor_freshName _ taken⟩

/-- A module with two names reserved, for types of one simple name. -/
def ordersTree : LinkedTree :=
  LinkedTree.after [.ensure ["shop"], .claim 0 "Order" "shop.a.Order", .claim 0 "Order" "shop.b.Order"]

theorem bindings_fresh_orders : ∃ m, ordersTree.modules[0]? = some m ∧
    m.names.keys = ["Order", "Order2"] ∧
      (ordersTree.claim 0 "Order" "shop.c.Order").1 = "Order3" ∧
      ordersTree.Adds (ordersTree.claim 0 "Order" "shop.c.Order").2 0 "Order3" "shop.c.Order" ∧
      (ordersTree.tree.reserve m.path "Order" "shop.c.Order").1 = "Order3" ∧
      Printed.importAlias "Order" "./shop.b" ["Order", "Order_b"] = "Order_b2" := by
  have hview : ordersTree.modules[0]?.map (·.names.keys) = some ["Order", "Order2"] := by decide +kernel
  obtain ⟨m, hm, hkeys⟩ := Option.map_eq_some_iff.mp hview
  obtain ⟨hfresh, hadds, hreserve⟩ := bindings_fresh.1 ordersTree 0 m hm "Order" "shop.c.Order"
  have hname : (ordersTree.claim 0 "Order" "shop.c.Order").1 = "Order3" := by
    have hfound := hfresh.found
    rw [hkeys] at hfound
    exact Option.some.inj (hfound.symm.trans (by decide))
  refine ⟨m, hm, hkeys, hname, hname ▸ hadds, ?_, ?_⟩
  · rw [hreserve (LinkedTree.linked_after _).1, hname]
  · obtain ⟨suffix, honly, halias⟩ := bindings_fresh.2 "Order" "./shop.b" ["Order", "Order_b"]
    have hword : Printed.SuffixOf "./shop.b" "b" :=
      @Printed.SuffixOf.word _ "./shop." "b" "" rfl (by decide) (by simp [Printed.isWordChar])
        (by simp [Printed.isWordChar]) (by simp)
    obtain rfl := (honly "b").mp hword
    exact Option.some.inj (halias.found.symm.trans (by decide))

end TypeGraph
