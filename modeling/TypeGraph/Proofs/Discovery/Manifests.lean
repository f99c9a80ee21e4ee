import Mathlib.Data.List.Forall2
import TypeGraph.Proofs.Conversion.Moves

/-!
# Entries of manifests stand for themselves

An entry of a manifest that cannot be read is reported under its own name and position, and takes nothing
else with it: the types are those of the other entries, in order (`Manifest.ofEntries_eq`), and a run over
them gives the graph that it gives when such entries are taken out beforehand (`entries_isolated`). A
manifest as a whole is different: the first that cannot be read decides (`readAll_eq_error_iff`).
-/

namespace TypeGraph

namespace Manifest

/-! ## Entries -/

/-- Whether an entry can be read. -/
def isSound (entry : Json) : Bool := (Descriptor.ofJson entry).isOk

/-- The types that some entries stand for. An entry that cannot be read stands for none. -/
def typesOf (entries : List Json) : List Descriptor :=
  entries.filterMap fun entry => (Descriptor.ofJson entry).toOption

/-- The failure of the entry at a position, if it cannot be read. It is called by the name that the entry
gives as a text, otherwise by the place. -/
def failure? (origin : String) (entry : Json) (position : Nat) : Option LoadFailure :=
  match Descriptor.ofJson entry with
  | .ok _ => none
  | .error reason =>
    some {
      name := ((entry.get? "name").bind Json.text?).getD (origin ++ "#" ++ toString position)
      reason }

/-- The failures of the entries of one manifest, counting positions from zero. -/
def failuresOf (origin : String) (entries : List Json) : List LoadFailure :=
  entries.zipIdx.filterMap fun e => failure? origin e.1 e.2

variable {files : Files} {origin path : String} {paths : List String} {entries : List Json}
  {e e' : Error}

theorem ofEntries_eq (origin : String) (position : Nat) (entries : List Json) :
    ofEntries origin position entries =
      { types := typesOf entries
        failures := (entries.zipIdx position).filterMap fun e => failure? origin e.1 e.2 } := by
  induction entries generalizing position with
  | nil => rfl
  | cons entry rest ih =>
      have hname : entryName origin position entry =
          ((entry.get? "name").bind Json.text?).getD (origin ++ "#" ++ toString position) := by
        rw [entryName]
        cases (entry.get? "name").bind Json.text? <;> rfl
      rw [ofEntries, ih, hname]
      cases hentry : Descriptor.ofJson entry <;>
        simp [typesOf, failure?, hentry, Except.toOption]

theorem typesOf_filter (entries : List Json) : typesOf (entries.filter isSound) = typesOf entries := by
  rw [typesOf, typesOf, List.filterMap_filter]
  refine List.filterMap_congr fun entry _ => ?_
  rw [isSound]
  cases Descriptor.ofJson entry <;> rfl

/-! ## Manifests -/

/-- There is a manifest at a path: a sound document of the supported version, with some entries. -/
def Readable (files : Files) (path : String) (entries : List Json) : Prop :=
  ∃ text, files.read? path = some text ∧ document? text = some (supportedVersion, entries)

/-- What is wrong at a path where no manifest can be read. -/
inductive Faulty (files : Files) (path : String) : Error → Prop
  | absent (h : files.read? path = none) : Faulty files path (.absentFile path)
  | malformed {text : String} (h : files.read? path = some text) (hdocument : document? text = none) :
      Faulty files path (.malformedManifest path)
  | unsupported {text : String} {version : Nat} {entries : List Json}
      (h : files.read? path = some text) (hdocument : document? text = some (version, entries))
      (hversion : version ≠ supportedVersion) :
      Faulty files path (.unsupportedVersion version path supportedVersion)

theorem readable_or_faulty (files : Files) (path : String) :
    (∃ entries, Readable files path entries) ∨ ∃ e, Faulty files path e := by
  cases hread : files.read? path with
  | none => exact Or.inr ⟨_, .absent hread⟩
  | some text =>
      cases hdocument : document? text with
      | none => exact Or.inr ⟨_, .malformed hread hdocument⟩
      | some document =>
          obtain ⟨version, entries⟩ := document
          by_cases hversion : version = supportedVersion
          · exact Or.inl ⟨entries, text, hread, hversion ▸ hdocument⟩
          · exact Or.inr ⟨_, .unsupported hread hdocument hversion⟩

theorem readAll_of_readable (h : Readable files path entries) (rest : List String) :
    Discovery.readAll files (path :: rest) =
      (Discovery.readAll files rest).map (ofEntries path 0 entries).append := by
  obtain ⟨text, hread, hdocument⟩ := h
  have htext : ofText path text = .ok (ofEntries path 0 entries) := by
    rw [ofText, hdocument]
    exact if_pos rfl
  rw [Discovery.readAll, hread]
  show (ofText path text >>= _) = _
  rw [htext]
  cases Discovery.readAll files rest <;> rfl

theorem readAll_of_faulty (h : Faulty files path e) (rest : List String) :
    Discovery.readAll files (path :: rest) = .error e := by
  rw [Discovery.readAll]
  cases h with
  | absent hread => rw [hread]
  | malformed hread hdocument =>
      rw [hread]
      show (ofText path _ >>= _) = _
      rw [ofText, hdocument]
      rfl
  | unsupported hread hdocument hversion =>
      rw [hread]
      show (ofText path _ >>= _) = _
      rw [ofText, hdocument]
      show ((if _ = _ then _ else _) >>= _) = _
      rw [if_neg hversion]
      rfl

/-- There is one thing wrong at a path, or nothing. -/
theorem Faulty.unique (h : Faulty files path e) (h' : Faulty files path e') : e = e' :=
  Except.error.inj ((readAll_of_faulty h []).symm.trans (readAll_of_faulty h' []))

theorem Faulty.not_readable (h : Faulty files path e) : ¬ Readable files path entries := by
  intro hreadable
  have hfails := readAll_of_faulty h []
  rw [readAll_of_readable hreadable] at hfails
  exact absurd hfails (by simp [Discovery.readAll, Except.map])

/-- Manifests that can be read give the types and the failures of their entries, in order. -/
theorem readAll_eq_ok {docs : List (List Json)} (h : List.Forall₂ (Readable files) paths docs) :
    Discovery.readAll files paths = .ok
      { types := docs.flatMap typesOf
        failures := (paths.zip docs).flatMap fun m => failuresOf m.1 m.2 } := by
  induction h with
  | nil => rfl
  | cons hfirst _ ih =>
      rw [readAll_of_readable hfirst, ih, ofEntries_eq]
      rfl

/-- Reading stops at the first path where no manifest can be read. -/
theorem readAll_eq_error_iff : Discovery.readAll files paths = .error e ↔
    ∃ before path after, paths = before ++ path :: after ∧
      (∀ p ∈ before, ∃ entries, Readable files p entries) ∧ Faulty files path e := by
  induction paths with
  | nil => simp [Discovery.readAll]
  | cons first rest ih =>
      -- the first path decides unless there is a manifest to be read
      rcases readable_or_faulty files first with ⟨entries, hreadable⟩ | ⟨e', hfaulty⟩
      · have hlater : Discovery.readAll files (first :: rest) = .error e ↔
            Discovery.readAll files rest = .error e := by
          rw [readAll_of_readable hreadable]
          cases Discovery.readAll files rest <;> simp [Except.map]
        rw [hlater, ih]
        constructor
        · rintro ⟨before, path, after, rfl, hbefore, hfaulty⟩
          refine ⟨first :: before, path, after, rfl, ?_, hfaulty⟩
          exact List.forall_mem_cons.mpr ⟨⟨entries, hreadable⟩, hbefore⟩
        · rintro ⟨before, path, after, hpaths, hbefore, hfaulty⟩
          cases before with
          | nil =>
              obtain ⟨rfl, _⟩ := List.cons.inj hpaths
              exact absurd hreadable hfaulty.not_readable
          | cons p before =>
              obtain ⟨_, hrest⟩ := List.cons.inj hpaths
              exact ⟨before, path, after, hrest, (List.forall_mem_cons.mp hbefore).2, hfaulty⟩
      · rw [readAll_of_faulty hfaulty]
        constructor
        · intro he
          obtain rfl := Except.error.inj he
          exact ⟨[], first, rest, rfl, by simp, hfaulty⟩
        · rintro ⟨before, path, after, hpaths, hbefore, hfaulty'⟩
          cases before with
          | nil =>
              obtain ⟨rfl, _⟩ := List.cons.inj hpaths
              rw [hfaulty.unique hfaulty']
          | cons p before =>
              obtain ⟨rfl, _⟩ := List.cons.inj hpaths
              obtain ⟨_, hreadable⟩ := hbefore first List.mem_cons_self
              exact absurd hreadable hfaulty.not_readable

end Manifest

/-! ## Runs over manifests -/

/-- The graph of a run over the manifests at some paths, or its error. -/
def Setup.graphOver (s : Setup) (files : Files) (paths packages : List String) : Except Error Graph := do
  let discovery ← Discovery.ofManifests files paths packages
  (s.run discovery).map (·.graph)

/-- The failures of a discovery do not show in the graph of a run. -/
theorem Setup.graph_failures (s : Setup) (discovery : Discovery) (failures : List LoadFailure) :
    (s.run { discovery with failures }).map (·.graph) = (s.run discovery).map (·.graph) := by
  have hclassified : s.classified { discovery with failures } = s.classified discovery := rfl
  have hindex : index { discovery with failures } = index discovery := rfl
  rw [run_eq, run_eq, hclassified, hindex]
  cases s.checkConverters (s.classified discovery) with
  | error e => rfl
  | ok =>
      show ((s.convertAll (index discovery) (s.classified discovery)) >>= _).map _ =
        ((s.convertAll (index discovery) (s.classified discovery)) >>= _).map _
      cases s.convertAll (index discovery) (s.classified discovery) <;> rfl

theorem Discovery.ofManifests_eq_ok {files : Files} {paths : List String} (hpaths : paths ≠ [])
    (packages : List String) {docs : List (List Json)}
    (h : List.Forall₂ (Manifest.Readable files) paths docs) :
    ofManifests files paths packages = .ok
      { ofTypes (docs.flatMap Manifest.typesOf) packages with
        failures := (paths.zip docs).flatMap fun m => Manifest.failuresOf m.1 m.2 } := by
  rw [ofManifests, if_neg (by simpa using hpaths), Manifest.readAll_eq_ok h]
  rfl

/-- Entries of manifests that cannot be read are isolated. When all manifests can be read, the types are
those of the entries that can be read, in order; each other entry is reported, in order, by its name or
place; and every run gives the same error, or the same graph, from which the same files are printed, as
over manifests that lack these entries. When some manifest cannot be read, the first such one decides. -/
theorem entries_isolated {files : Files} {paths : List String} (hpaths : paths ≠ [])
    (packages : List String) :
    (∀ docs, List.Forall₂ (Manifest.Readable files) paths docs →
      Discovery.ofManifests files paths packages = .ok
        { Discovery.ofTypes (docs.flatMap Manifest.typesOf) packages with
          failures := (paths.zip docs).flatMap fun m => Manifest.failuresOf m.1 m.2 } ∧
      ∀ (s : Setup) (files' : Files) (paths' : List String),
        List.Forall₂ (Manifest.Readable files') paths' (docs.map (·.filter Manifest.isSound)) →
          s.graphOver files paths packages = s.graphOver files' paths' packages) ∧
    ∀ e, Discovery.ofManifests files paths packages = .error e ↔
      ∃ before path after, paths = before ++ path :: after ∧
        (∀ p ∈ before, ∃ entries, Manifest.Readable files p entries) ∧ Manifest.Faulty files path e := by
  constructor
  · intro docs hdocs
    refine ⟨Discovery.ofManifests_eq_ok hpaths packages hdocs, fun s files' paths' hdocs' => ?_⟩
    have hpaths' : paths' ≠ [] := by
      rintro rfl
      have hlength := hdocs'.length_eq
      rw [List.length_map, ← hdocs.length_eq] at hlength
      exact hpaths (List.length_eq_zero_iff.mp hlength.symm)
    have htypes : (docs.map (·.filter Manifest.isSound)).flatMap Manifest.typesOf =
        docs.flatMap Manifest.typesOf := by
      rw [List.flatMap_map]
      exact List.flatMap_congr fun entries _ => Manifest.typesOf_filter entries
    have hfirst := Discovery.ofManifests_eq_ok hpaths packages hdocs
    have hsecond := Discovery.ofManifests_eq_ok hpaths' packages hdocs'
    rw [htypes] at hsecond
    have hgraph := s.graph_failures (.ofTypes (docs.flatMap Manifest.typesOf) packages)
    rw [Setup.graphOver, Setup.graphOver, hfirst, hsecond]
    exact (hgraph _).trans (hgraph _).symm
  · intro e
    rw [← Manifest.readAll_eq_error_iff, Discovery.ofManifests, if_neg (by simpa using hpaths)]
    cases Discovery.readAll files paths with
    | error e' => simp [bind, Except.bind]
    | ok manifest => simp [bind, Except.bind, pure, Except.pure]

/-! ## Two manifests -/

/-- A number where a type should be. -/
def numberEntry : Json := .int 7

/-- A type of a kind that there is not. -/
def deskEntry : Json := .object [("kind", .text "table"), ("name", .text "shop.Desk")]

/-- A type that can be read. -/
def clerkEntry : Json := .object [("kind", .text "class"), ("name", .text "shop.Clerk")]

/-- What it is read as. -/
def clerk : Descriptor := { name := "shop.Clerk", kind := .classType }

/-- Three entries, of which one can be read, and no entries. -/
def staffFiles : Files :=
  ⟨[("a", "[1,[7,\x7b\"kind\":\"class\",\"name\":\"shop.Clerk\"\x7d," ++
      "\x7b\"kind\":\"table\",\"name\":\"shop.Desk\"\x7d]]"), ("b", "[]")]⟩

/-- The same without the entries that cannot be read. -/
def soundFiles : Files := ⟨[("a", "[1,[\x7b\"kind\":\"class\",\"name\":\"shop.Clerk\"\x7d]]"), ("b", "[]")]⟩

theorem ofJson_number : ∃ reason, Descriptor.ofJson numberEntry = .error reason :=
  ⟨_, by rw [Descriptor.ofJson]; rfl⟩

theorem ofJson_desk : ∃ reason, Descriptor.ofJson deskEntry = .error reason :=
  ⟨_, by rw [Descriptor.ofJson]; rfl⟩

theorem ofJson_clerk : Descriptor.ofJson clerkEntry = .ok clerk := by
  rw [Descriptor.ofJson]
  rfl

theorem ofTypes_clerk : Discovery.ofTypes [clerk] ["shop"] = { candidates := [clerk] } := by
  have hflat : flatten [clerk] = [clerk] := by
    rw [flatten]
    exact congrArg (clerk :: ·) (by rw [clerk, List.append_nil, flatten])
  rw [Discovery.ofTypes, hflat]
  rfl

set_option maxRecDepth 10000 in
theorem readable_staff : List.Forall₂ (Manifest.Readable staffFiles) ["a", "b"]
    [[numberEntry, clerkEntry, deskEntry], []] :=
  .cons ⟨_, rfl, rfl⟩ (.cons ⟨_, rfl, rfl⟩ .nil)

set_option maxRecDepth 10000 in
theorem readable_sound : List.Forall₂ (Manifest.Readable soundFiles) ["a", "b"] [[clerkEntry], []] :=
  .cons ⟨_, rfl, rfl⟩ (.cons ⟨_, rfl, rfl⟩ .nil)

/-- The clerk is a candidate, the others are reported, and every run is one over the clerk alone. -/
theorem entries_isolated_staff :
    (∃ discovery, Discovery.ofManifests staffFiles ["a", "b"] ["shop"] = .ok discovery ∧
      discovery.candidates = [clerk] ∧ discovery.references = [] ∧
      discovery.failures.map (·.name) = ["a#0", "shop.Desk"]) ∧
    (∀ s : Setup, s.graphOver staffFiles ["a", "b"] ["shop"] = s.graphOver soundFiles ["a", "b"] ["shop"]) ∧
    Discovery.ofManifests staffFiles ["b", "c"] ["shop"] = .error (.absentFile "c") := by
  obtain ⟨reason, hnumber⟩ := ofJson_number
  obtain ⟨reason', hdesk⟩ := ofJson_desk
  have hsound : [[numberEntry, clerkEntry, deskEntry], []].map (·.filter Manifest.isSound) =
      [[clerkEntry], []] := by
    simp [Manifest.isSound, hnumber, hdesk, ofJson_clerk, Except.isOk, Except.toBool]
  obtain ⟨hok, hgraph⟩ := (entries_isolated (by simp) ["shop"]).1 _ readable_staff
  have htypes : [[numberEntry, clerkEntry, deskEntry], []].flatMap Manifest.typesOf = [clerk] := by
    simp [Manifest.typesOf, hnumber, hdesk, ofJson_clerk, Except.toOption]
  rw [htypes, ofTypes_clerk] at hok
  refine ⟨⟨_, hok, rfl, rfl, ?_⟩, fun s => hgraph s _ _ (hsound ▸ readable_sound), ?_⟩
  · have hplace : Manifest.failure? "a" numberEntry 0 = some { name := "a#0", reason } := by
      rw [Manifest.failure?, hnumber]
      rfl
    have hnone : Manifest.failure? "a" clerkEntry 1 = none := by
      rw [Manifest.failure?, ofJson_clerk]
    have hname : Manifest.failure? "a" deskEntry 2 = some { name := "shop.Desk", reason := reason' } := by
      rw [Manifest.failure?, hdesk]
      rfl
    simp [Manifest.failuresOf, hplace, hnone, hname]
  · refine ((entries_isolated (by simp) ["shop"]).2 _).mpr ⟨["b"], "c", [], rfl, ?_, .absent ?_⟩
    · intro p hp
      obtain rfl := List.mem_singleton.mp hp
      exact ⟨[], _, rfl, rfl⟩
    · rfl

end TypeGraph
