import Mathlib.Data.List.Infix
import TypeGraph.Proofs.Printed.Links
import TypeGraph.Proofs.Run.Surfaces

/-!
# Comments on endpoints

The comment on a method holds the path of its endpoint as it was written. Whoever reads a comment leaves
it at the first star with a slash behind it, so the comment ends with its own last line exactly when
there is no such pair in the joined path. The pair can be in the path before those of the endpoints, in
the path of the endpoint, or come about where the two meet (`Endpoint.Breaks`): a star at the end of the
first part meets the slash between them. Nothing keeps such paths from being printed (`not_closed_files`).
-/

namespace TypeGraph

/-! ## Ends of comments -/

namespace Text

variable {text more rest before after : List Char}

/-- What stands behind the first end of a comment, if there is one. -/
def afterComment? : List Char → Option (List Char)
  | '*' :: '/' :: rest => some rest
  | _ :: rest => afterComment? rest
  | [] => none

/-- Somewhere in a text stands the end of a comment. -/
def HasEnd (text : List Char) : Prop := ['*', '/'] <:+: text

instance : DecidablePred HasEnd := fun text => inferInstanceAs (Decidable (['*', '/'] <:+: text))

theorem not_hasEnd_nil : ¬ HasEnd [] := by decide

/-- In two texts after each other there is an end of a comment in one of them or where they meet. -/
theorem hasEnd_append_iff : HasEnd (before ++ after) ↔
    HasEnd before ∨ HasEnd after ∨ (before.getLast? = some '*' ∧ after.head? = some '/') := by
  unfold HasEnd
  rw [List.infix_append_iff]
  constructor
  · rintro (hbefore | hafter | ⟨l, r, hsplit, hl, hr⟩)
    · exact Or.inl hbefore
    · exact Or.inr (Or.inl hafter)
    · -- the pair lies behind the seam, across it or before it
      match l, hsplit with
      | [], hsplit =>
          obtain rfl : ['*', '/'] = r := hsplit
          exact Or.inr (Or.inl hr.isInfix)
      | [a], hsplit =>
          obtain ⟨rfl, rfl⟩ : '*' = a ∧ ['/'] = r := List.cons.inj hsplit
          obtain ⟨first, rfl⟩ := hl
          obtain ⟨last, rfl⟩ := hr
          exact Or.inr (Or.inr (by simp))
      | a :: b :: l, hsplit =>
          obtain ⟨rfl, rfl, hnil⟩ : '*' = a ∧ '/' = b ∧ [] = l ++ r := by simpa using hsplit
          obtain ⟨rfl, rfl⟩ := List.append_eq_nil_iff.mp hnil.symm
          exact Or.inl hl.isInfix
  · rintro (hbefore | hafter | ⟨hlast, hfirst⟩)
    · exact Or.inl hbefore
    · exact Or.inr (Or.inl hafter)
    · obtain ⟨first, rfl⟩ := List.getLast?_eq_some_iff.mp hlast
      obtain ⟨last, rfl⟩ := List.head?_eq_some_iff.mp hfirst
      exact Or.inr (Or.inr ⟨['*'], ['/'], rfl, List.suffix_append _ _, List.prefix_append ['/'] last⟩)

/-- Texts meet without a new end unless the first has a star at its end. -/
theorem hasEnd_append_of_getLast? (h : before.getLast? ≠ some '*') :
    HasEnd (before ++ after) ↔ HasEnd before ∨ HasEnd after := by
  rw [hasEnd_append_iff, or_iff_left fun hseam : _ ∧ _ => h hseam.1]

/-- Texts meet without a new end unless the second has a slash at its beginning. -/
theorem hasEnd_append_of_head? (h : after.head? ≠ some '/') :
    HasEnd (before ++ after) ↔ HasEnd before ∨ HasEnd after := by
  rw [hasEnd_append_iff, or_iff_left fun hseam : _ ∧ _ => h hseam.2]

theorem hasEnd_cons_iff {c : Char} :
    HasEnd (c :: rest) ↔ (c = '*' ∧ rest.head? = some '/') ∨ HasEnd rest := by
  have hone : ¬ HasEnd [c] := by
    intro h
    have hlength := h.length_le
    simp at hlength
  rw [← List.singleton_append, hasEnd_append_iff, or_iff_right hone, or_comm]
  simp

theorem afterComment?_cons {c : Char} (h : ¬ (c = '*' ∧ rest.head? = some '/')) :
    afterComment? (c :: rest) = afterComment? rest := by
  rw [afterComment?]
  rintro r rfl rfl
  exact h ⟨rfl, rfl⟩

/-- Without an end of a comment, a text is in the comment as a whole. -/
theorem afterComment?_append_of_not_hasEnd (h : ¬ HasEnd (before ++ ['*'])) :
    afterComment? (before ++ '*' :: '/' :: rest) = some rest := by
  induction before with
  | nil => rfl
  | cons c before ih =>
      rw [List.cons_append, hasEnd_cons_iff, not_or] at h
      obtain ⟨hfirst, hlater⟩ := h
      rw [List.cons_append, afterComment?_cons, ih hlater]
      -- what comes behind the first character begins as before
      rintro ⟨hstar, hslash⟩
      refine hfirst ⟨hstar, ?_⟩
      cases before with
      | nil => simp at hslash
      | cons c' before => exact hslash

/-- An end of a comment ends it, whatever follows. -/
theorem exists_afterComment?_append (h : HasEnd text) :
    ∃ rest, ∀ more, afterComment? (text ++ more) = some (rest ++ more) := by
  induction text with
  | nil => exact absurd h not_hasEnd_nil
  | cons c text ih =>
      by_cases hfirst : c = '*' ∧ text.head? = some '/'
      · obtain ⟨rfl, hslash⟩ := hfirst
        obtain ⟨rest, rfl⟩ := List.head?_eq_some_iff.mp hslash
        exact ⟨rest, fun more => rfl⟩
      · obtain ⟨rest, hrest⟩ := ih ((hasEnd_cons_iff.mp h).resolve_left hfirst)
        refine ⟨rest, fun more => ?_⟩
        rw [List.cons_append, afterComment?_cons, hrest more]
        rintro ⟨hstar, hslash⟩
        refine hfirst ⟨hstar, ?_⟩
        cases text with
        | nil => exact absurd h (by simp [hasEnd_cons_iff, not_hasEnd_nil])
        | cons c' text => exact hslash

/-- A comment goes on to a given end of it exactly when there is no other one before. -/
theorem afterComment?_append_iff :
    afterComment? (before ++ '*' :: '/' :: rest) = some rest ↔ ¬ HasEnd before := by
  constructor
  · intro h hend
    obtain ⟨early, hearly⟩ := exists_afterComment?_append hend
    have hsame := Option.some.inj ((hearly _).symm.trans h)
    have hlength := congrArg List.length hsame
    simp only [List.length_append, List.length_cons] at hlength
    omega
  · intro h
    refine afterComment?_append_of_not_hasEnd ?_
    rw [hasEnd_append_iff]
    rintro (hbefore | hstar | ⟨_, hslash⟩)
    · exact h hbefore
    · exact absurd hstar (by decide)
    · exact absurd hslash (by decide)

/-- A path with a star for a directory ends the comment in its middle. -/
example : afterComment? " * GET /files/*/meta\n     */\n".toList = some "meta\n     */\n".toList := by
  decide

end Text

/-! ## Joined paths -/

namespace Endpoint

open Text (HasEnd)

variable {base path : String} {first second : List Char}

/-- Two parts of a path bring an end of a comment into the joined path. -/
inductive Breaks (base path : String) : Prop
  /-- The first part has one before the slashes at its end. -/
  | base (h : HasEnd (trimEnd base.toList))
  | path (h : HasEnd path.toList)
  /-- A star at the end of the first part meets the slash before the second. -/
  | seam (hstar : (trimEnd base.toList).getLast? = some '*') (hpath : trimStart path.toList ≠ [])

/-- The slashes at the beginning of a path are no part of an end of a comment. -/
theorem hasEnd_trimStart_iff : HasEnd (trimStart second) ↔ HasEnd second := by
  unfold trimStart
  induction second with
  | nil => rfl
  | cons c rest ih =>
      by_cases hslash : c = '/'
      · rw [List.dropWhile_cons_of_pos (by simpa using hslash), ih, Text.hasEnd_cons_iff, hslash]
        simp
      · rw [List.dropWhile_cons_of_neg (by simpa using hslash)]

theorem hasEnd_rooted_iff : HasEnd (rooted first) ↔ HasEnd first := by
  unfold rooted
  split
  · rfl
  · rw [Text.hasEnd_cons_iff]
    simp

theorem hasEnd_meet_iff : HasEnd (meet first second) ↔
    HasEnd first ∨ HasEnd second ∨ (first.getLast? = some '*' ∧ second ≠ []) := by
  unfold meet
  split
  · rename_i hempty
    obtain rfl := List.isEmpty_iff.mp hempty
    simp [Text.not_hasEnd_nil]
  · split
    · rename_i hempty
      obtain rfl := List.isEmpty_iff.mp hempty
      simp [Text.not_hasEnd_nil]
    · rename_i hsecond
      have hne : second ≠ [] := fun hnil => hsecond (List.isEmpty_iff.mpr hnil)
      rw [Text.hasEnd_append_iff, Text.hasEnd_cons_iff]
      simp [hne]

/-- A joined path has an end of a comment exactly when its parts bring one. -/
theorem hasEnd_joinPath_iff : HasEnd (joinPath base path).toList ↔ Breaks base path := by
  rw [joinPath, String.toList_ofList, hasEnd_rooted_iff, hasEnd_meet_iff, hasEnd_trimStart_iff]
  constructor
  · rintro (hbase | hpath | ⟨hstar, hmore⟩)
    · exact .base hbase
    · exact .path hpath
    · exact .seam hstar hmore
  · rintro (hbase | hpath | ⟨hstar, hmore⟩)
    · exact Or.inl hbase
    · exact Or.inr (Or.inl hpath)
    · exact Or.inr (Or.inr ⟨hstar, hmore⟩)

instance : Decidable (Breaks base path) := decidable_of_iff _ hasEnd_joinPath_iff

end Endpoint

/-- The path on a type, which comes before those of its endpoints. -/
def Descriptor.basePath (d : Descriptor) : String := (d.mapping?.map (·.1)).getD ""

/-- Endpoints have a path. -/
theorem Descriptor.exists_mapping {d : Descriptor} {m : Method} (h : m ∈ d.endpoints) :
    ∃ path verb, m.mapping? = some (path, verb) := by
  have hendpoint : m.isEndpoint = true := (List.mem_filter.mp h).2
  rw [Method.isEndpoint, Marker.has_requestMapping_iff] at hendpoint
  obtain ⟨⟨path, verb⟩, hmapping⟩ := Option.isSome_iff_exists.mp hendpoint
  exact ⟨path, verb, hmapping⟩

/-- The comment on an endpoint has an end of a comment exactly when the parts of its path bring one: its
method has none. -/
theorem Converter.hasEnd_endpointDoc_iff {base path : String} {verb : Option HttpMethod} {m : Method}
    (hmapping : m.mapping? = some (path, verb)) :
    Text.HasEnd (endpointDoc base m).toList ↔ Endpoint.Breaks base path := by
  have hverb : ¬ Text.HasEnd ((verb.map HttpMethod.verb).getD "ANY" ++ " ").toList := by
    cases verb with
    | none => decide
    | some method => cases method <;> decide
  have hblank : ((verb.map HttpMethod.verb).getD "ANY" ++ " ").toList.getLast? ≠ some '*' := by
    rw [String.toList_append, List.getLast?_append]
    exact fun h => absurd h (by simp)
  rw [endpointDoc, hmapping, Option.getD_some, String.toList_append,
    Text.hasEnd_append_of_getLast? hblank, or_iff_right hverb, Endpoint.hasEnd_joinPath_iff]

namespace Printed

variable {naming : Naming} {d : Descriptor} {e : Declaration} {sig : Signature} {lines : List String}
  {after : String}

/-! ## Comments -/

/-- A comment in front of a text is closed by its own last line: whoever reads it from behind its first
line on leaves it there, and not before. -/
def ClosedAtEnd (comment after : String) : Prop :=
  ∃ inside, comment = line (indent ++ "/**") ++ inside ++ line (indent ++ " */") ∧
    Text.afterComment? (inside ++ line (indent ++ " */") ++ after).toList = some ("\n" ++ after).toList

theorem hasEnd_docLine_iff {doc : String} :
    Text.HasEnd (line (indent ++ " * " ++ doc)).toList ↔ Text.HasEnd doc.toList := by
  have hmark : ¬ Text.HasEnd (indent ++ " * ").toList := by decide
  have hbreak : ¬ Text.HasEnd "\n".toList := by decide
  rw [line, String.toList_append, Text.hasEnd_append_of_head? (by decide), or_iff_left hbreak,
    String.toList_append, Text.hasEnd_append_of_getLast? (by decide), or_iff_right hmark]

/-- Lines after each other have no more ends of comments than each of them. -/
theorem hasEnd_docLines_iff :
    Text.HasEnd (String.join (lines.map fun doc => line (indent ++ " * " ++ doc))).toList ↔
      ∃ doc ∈ lines, Text.HasEnd doc.toList := by
  induction lines with
  | nil => simp [Text.not_hasEnd_nil]
  | cons doc rest ih =>
      have hbreak : (line (indent ++ " * " ++ doc)).toList.getLast? ≠ some '*' := by
        rw [line, String.toList_append, List.getLast?_append]
        exact fun h => absurd h (by simp)
      rw [List.map_cons, String.join_cons, String.toList_append, Text.hasEnd_append_of_getLast? hbreak,
        hasEnd_docLine_iff, ih, List.exists_mem_cons_iff]

theorem docs_of_ne_nil (hne : lines ≠ []) : docs lines = line (indent ++ "/**") ++
    String.join (lines.map fun doc => line (indent ++ " * " ++ doc)) ++ line (indent ++ " */") := by
  rw [docs, if_neg]
  simpa using hne

/-- The comment of some lines is closed by its own last line exactly when none of them has an end of a
comment, whatever follows. -/
theorem closedAtEnd_docs_iff (hne : lines ≠ []) :
    ClosedAtEnd (docs lines) after ↔ ∀ doc ∈ lines, ¬ Text.HasEnd doc.toList := by
  have hblanks : ¬ Text.HasEnd (indent ++ " ").toList := by decide
  have hread : ∀ inside : String, Text.afterComment?
      (inside ++ line (indent ++ " */") ++ after).toList = some ("\n" ++ after).toList ↔
        ¬ Text.HasEnd inside.toList := by
    intro inside
    have hend : (inside ++ line (indent ++ " */") ++ after).toList =
        (inside ++ (indent ++ " ")).toList ++ '*' :: '/' :: ("\n" ++ after).toList := by
      simp [line, indent]
    rw [hend, Text.afterComment?_append_iff, String.toList_append,
      Text.hasEnd_append_of_head? (by decide), or_iff_left hblanks]
  have hdocs : (∀ doc ∈ lines, ¬ Text.HasEnd doc.toList) ↔ ¬ Text.HasEnd
      (String.join (lines.map fun doc => line (indent ++ " * " ++ doc))).toList := by
    rw [hasEnd_docLines_iff]
    simp
  rw [hdocs, ← hread]
  constructor
  · rintro ⟨inside, heq, hclosed⟩
    rw [docs_of_ne_nil hne, String.append_left_inj, String.append_right_inj] at heq
    rw [heq]
    exact hclosed
  · intro hclosed
    exact ⟨_, docs_of_ne_nil hne, hclosed⟩

/-! ## Printed methods -/

/-- A method stands, with its comment, in the printed declaration. -/
theorem inside_declaration_method (h : sig ∈ e.body.methods) :
    Inside (method naming sig) (declaration naming e) := by
  cases hbody : e.body with
  | enum constants => simp [hbody, Body.methods] at h
  | «alias» typeParams target => simp [hbody, Body.methods] at h
  | interface i =>
      rw [hbody] at h
      have hlisted : method naming sig ∈ i.methods.map (method naming) := List.mem_map_of_mem h
      exact inside_declaration_of_members hbody ((Inside.intercalate hlisted).append_left _)

/-- The comment on an endpoint is closed by its own last line exactly when the parts of its path bring
no other end of a comment, whatever follows. -/
theorem closedAtEnd_endpointDoc_iff {base path : String} {verb : Option HttpMethod} {m : Method}
    (hmapping : m.mapping? = some (path, verb)) :
    ClosedAtEnd (docs [Converter.endpointDoc base m]) after ↔ ¬ Endpoint.Breaks base path := by
  rw [closedAtEnd_docs_iff (List.cons_ne_nil _ _), List.forall_mem_singleton,
    Converter.hasEnd_endpointDoc_iff hmapping]

/-- A method of a body that a converter has made is that of an endpoint. -/
theorem exists_endpoint_of_body {k : Converter} {resolve : TypeRef → TypeExpr} {strategy : Nullability}
    (h : sig ∈ (k.body resolve strategy d).methods) :
    ∃ m ∈ d.endpoints, sig.name = m.name ∧ sig.docs = [Converter.endpointDoc d.basePath m] := by
  cases k with
  | enum => simp [Converter.body, Body.methods] at h
  | model includeIgnored =>
      rw [Converter.body] at h
      split at h <;> simp [Body.methods] at h
  | rest wrapper =>
      obtain ⟨m, hm, rfl⟩ := List.mem_map.mp h
      exact ⟨m, hm, rfl, rfl⟩

/-- A text has the comment on an endpoint somewhere, and there it is closed by its own last line exactly
when the parts of the path of the endpoint bring no other end of a comment. -/
def Comments (text : String) (d : Descriptor) (m : Method) : Prop :=
  ∃ path verb before after, m.mapping? = some (path, verb) ∧
    text = before ++ docs [Converter.endpointDoc d.basePath m] ++ after ∧
      (ClosedAtEnd (docs [Converter.endpointDoc d.basePath m]) after ↔ ¬ Endpoint.Breaks d.basePath path)

theorem comments_of_inside {text : String} {m : Method} (hm : m ∈ d.endpoints)
    (hdocs : sig.docs = [Converter.endpointDoc d.basePath m])
    (h : Inside (method naming sig) text) : Comments text d m := by
  obtain ⟨path, verb, hmapping⟩ := Descriptor.exists_mapping hm
  have hprinted : Inside (docs sig.docs) (method naming sig) := (Inside.refl _).append_right _
  obtain ⟨before, after, htext⟩ := hprinted.trans h
  rw [hdocs] at htext
  exact ⟨path, verb, before, after, hmapping, htext, closedAtEnd_endpointDoc_iff hmapping⟩

/-- In the printed interface of the endpoints of a type the comment on every endpoint is closed by its
own last line exactly when the path on the type and that of the endpoint bring no other end of a
comment. -/
theorem comments_of_endpoints {resolve : TypeRef → TypeExpr} {strategy : Nullability}
    {wrapper : TypeExpr} {m : Method} (naming : Naming)
    (hbody : e.body = (Converter.rest wrapper).body resolve strategy d) (hm : m ∈ d.endpoints) :
    Comments (declaration naming e) d m := by
  have hsig : Converter.endpoint resolve strategy wrapper d.basePath m ∈ e.body.methods := by
    rw [hbody]
    exact List.mem_map_of_mem hm
  exact comments_of_inside hm rfl (inside_declaration_method hsig)

/-- A desk as it is declared, with `any` for all other types. -/
def declaredDesk (d : Descriptor) : Declaration :=
  { name := "Desk", source := d.name, module := ["shop"]
    body := (Converter.rest .any).body (fun _ => .any) .standard d }

/-- Everything under its own name. -/
def ownNames : Naming := { declared := id, external := fun _ name => name }

/-- The desk of the shop has its orders in a comment that is closed. -/
theorem comments_shop : ∃ d ∈ shopTypes, ∃ before after,
    declaration ownNames (declaredDesk d) = before ++ docs ["ANY /orders"] ++ after ∧
      ClosedAtEnd (docs ["ANY /orders"]) after := by
  have horders : ∃ m ∈ shopTypes[0].endpoints, m.mapping? = some ("/orders", none) ∧
      Converter.endpointDoc shopTypes[0].basePath m = "ANY /orders" :=
    ⟨_, List.mem_singleton.mpr rfl, rfl, by decide⟩
  obtain ⟨m, hm, hmapping, hdoc⟩ := horders
  obtain ⟨path, verb, before, after, hpath, htext, hclosed⟩ :=
    comments_of_endpoints (e := declaredDesk shopTypes[0]) ownNames rfl hm
  obtain ⟨rfl, rfl⟩ : "/orders" = path ∧ none = verb := by simpa [hmapping] using hpath
  rw [hdoc] at htext hclosed
  exact ⟨_, List.getElem_mem _, before, after, htext, hclosed.mpr (by decide)⟩

/-- A desk with a star for any directory in front of all its paths. -/
def filesDesk : Descriptor :=
  { name := "shop.Desk", kind := .classType, markers := [.restController, .requestMapping "/files/*" none]
    methods := [{ name := "meta", markers := [.requestMapping "/meta" (some .get)] }] }

/-- The star meets a slash, and that ends the comment. -/
theorem not_closed_files : ¬ ∀ (naming : Naming) (resolve : TypeRef → TypeExpr) (strategy : Nullability)
    (wrapper : TypeExpr) (d : Descriptor) (e : Declaration),
      e.body = (Converter.rest wrapper).body resolve strategy d → ∀ m ∈ d.endpoints, ∃ before after,
        declaration naming e = before ++ docs [Converter.endpointDoc d.basePath m] ++ after ∧
          ClosedAtEnd (docs [Converter.endpointDoc d.basePath m]) after := by
  intro hall
  obtain ⟨_, after, _, hclosed⟩ := hall ownNames (fun _ => .any) .standard .any filesDesk
    (declaredDesk filesDesk) rfl _ (List.mem_singleton.mpr rfl)
  have hmapping : filesDesk.methods[0].mapping? = some ("/meta", some .get) := rfl
  refine (closedAtEnd_endpointDoc_iff hmapping).mp hclosed (.seam ?_ ?_)
  · decide
  · decide

/-! ## Files -/

/-- Every method in the files of a run is that of an endpoint, and there its comment is closed by its own
last line exactly when the parts of the path bring no other end of a comment. -/
theorem comments_of_run {s : Setup} {discovery : Discovery} {outcome : Outcome}
    (h : s.run discovery = .ok outcome) (he : e ∈ outcome.graph.table.declarations)
    (hsig : sig ∈ e.body.methods) : ∃ d, (Setup.index discovery).find? e.source = some d ∧
      ∃ m ∈ d.endpoints, sig.name = m.name ∧ sig.docs = [Converter.endpointDoc d.basePath m] ∧
        ∃ f ∈ files outcome.graph, Comments f.content d m := by
  obtain ⟨final, hgraph, hsettled, _⟩ := Setup.settled_of_run h
  have hfinal : e ∈ final.table.declarations := by
    rw [hgraph] at he
    exact he
  obtain ⟨d, k, declared, hfind, _, _, hbody⟩ := hsettled.exists_body hfinal
  have hmade : sig ∈ (k.body ((s.env (Setup.index discovery)).target declared) s.nullability d).methods :=
    hbody ▸ hsig
  obtain ⟨m, hm, hname, hdocs⟩ := exists_endpoint_of_body hmade
  obtain ⟨o, ho, _, hf, heo, _⟩ := exists_file (Setup.owned_of_run h) he
  refine ⟨d, hfind, m, hm, hname, hdocs, _, hf, ?_⟩
  -- the method stands in the declaration, and that in the text of its module
  have hdeclared : Inside (declaration (namingOf outcome.graph o) e) (moduleText outcome.graph o) :=
    ((Inside.refl _).append_left "\n").trans (inside_moduleText_declaration heo)
  exact comments_of_inside hm hdocs ((inside_declaration_method hsig).trans hdeclared)

end Printed

end TypeGraph
