import TypeGraph.Configuration.Reading
import TypeGraph.Configuration.Setup
import TypeGraph.Proofs.Filter.Spelling

/-!
# Configurations are read back as they were written

The written form of a configuration has every field, and what is absent is `null` there. A configuration
may also be spelt with less: every field may be left out when it has its default
(`Configuration.Spelt`). An absent table of options and an empty one are different configurations, and
the spellings keep them apart: options with all their defaults are an empty record, and no options are
`null` or nothing. All spellings are read as the configuration they spell.
-/

namespace TypeGraph

open Json (Is Detail OrNull Reads)

/-! ## Entries in order -/

section

variable {α : Type} {name : String} {value : α} {entries : List (String × α)}

theorem NameMap.insertList_of_greatest (h : ∀ entry ∈ entries, entry.1 < name) :
    insertList name value entries = entries ++ [(name, value)] := by
  induction entries with
  | nil => rfl
  | cons entry rest ih =>
      obtain ⟨k, v⟩ := entry
      have hlt : k < name := h (k, v) List.mem_cons_self
      have hnot : ¬ name < k := fun hgt => String.lt_irrefl _ (String.lt_trans hlt hgt)
      have hne : name ≠ k := fun heq => String.lt_irrefl k (heq ▸ hlt)
      rw [insertList, if_neg hnot, if_neg hne, ih fun entry hentry =>
        h entry (List.mem_cons_of_mem _ hentry), List.cons_append]

/-- Entries that ascend are put one after the other. -/
theorem NameMap.foldl_insertList (sorted : List (String × α))
    (h : ((sorted ++ entries).map (·.1)).Pairwise (· < ·)) :
    entries.foldl (fun sorted entry => insertList entry.1 entry.2 sorted) sorted =
      sorted ++ entries := by
  induction entries generalizing sorted with
  | nil => simp
  | cons entry rest ih =>
      have hgreatest : ∀ other ∈ sorted, other.1 < entry.1 := by
        rw [List.map_append, List.pairwise_append] at h
        exact fun other hother => h.2.2 other.1 (List.mem_map_of_mem hother) entry.1 (by simp)
      rw [List.foldl_cons, insertList_of_greatest hgreatest, ih _ (by simpa using h)]
      simp

theorem NameMap.entries_foldl_insert (m : NameMap α) :
    (entries.foldl (fun m entry => m.insert entry.1 entry.2) m).entries =
      entries.foldl (fun sorted entry => insertList entry.1 entry.2 sorted) m.entries := by
  induction entries generalizing m with
  | nil => rfl
  | cons entry rest ih => exact ih _

/-- A map is made again from its entries. -/
@[simp] theorem NameMap.ofList_entries (m : NameMap α) : ofList m.entries = m := by
  have hentries : (ofList m.entries).entries = m.entries :=
    (entries_foldl_insert ∅).trans (foldl_insertList [] m.ascending)
  cases hm : ofList m.entries
  rw [hm] at hentries
  subst hentries
  rfl

end

theorem Json.insertEntry_eq_insertList (key : String) (value : Json)
    (entries : List (String × Json)) :
    insertEntry key value entries = NameMap.insertList key value entries := by
  induction entries with
  | nil => rfl
  | cons entry rest ih => simp only [insertEntry, NameMap.insertList, ih]

/-- An object is written with its entries as they are if they ascend. -/
theorem Json.record_of_ascending {entries : List (String × Json)}
    (h : (entries.map (·.1)).Pairwise (· < ·)) : record entries = .object entries := by
  rw [record, inKeyOrder]
  simp only [insertEntry_eq_insertList]
  exact congrArg object (NameMap.foldl_insertList [] h)

/-! ## Spellings -/

/-- Options of the conversion of models. -/
inductive ModelOptions.Spelt : ModelOptions → Json → Prop
  | mk {o : ModelOptions} {included : Option Json}
      (hincluded : Detail (Is .bool) false o.includeIgnored included) :
      Spelt o (.recordOf [("include_ignored", included)])

/-- Options of the conversion of types with endpoints. -/
inductive RestOptions.Spelt : RestOptions → Json → Prop
  | mk {o : RestOptions} {wrapper wrapperModule : Option Json}
      (hwrapper : Detail (Is .text) "Promise" o.wrapper wrapper)
      (hmodule : Detail (OrNull (Is .text)) none o.wrapperModule wrapperModule) :
      Spelt o (.recordOf [("response_wrapper", wrapper), ("wrapper_module", wrapperModule)])

/-- A chosen target. -/
inductive CustomTarget.Spelt : CustomTarget → Json → Prop
  | mk {t : CustomTarget} {module : Option Json}
      (hmodule : Detail (OrNull (Is .text)) none t.module module) :
      Spelt t (.recordOf [("name", some (.text t.name)), ("module", module)])

/-- The options of both kinds of conversion. An absent table is none at all. -/
inductive ConverterOptions.Spelt : Option ModelOptions × Option RestOptions → Json → Prop
  | mk {options : Option ModelOptions × Option RestOptions} {model rest : Option Json}
      (hmodel : Detail (OrNull ModelOptions.Spelt) none options.1 model)
      (hrest : Detail (OrNull RestOptions.Spelt) none options.2 rest) :
      Spelt options (.recordOf [("model", model), ("rest", rest)])

/-- A map is spelt entry by entry, in the order of its names. -/
inductive NameMap.Spelt {α : Type} (spelt : α → Json → Prop) : NameMap α → Json → Prop
  | mk {m : NameMap α} {fields : List (String × Json)}
      (h : List.Forall₂ (fun entry field => field.1 = entry.1 ∧ spelt entry.2 field.2) m.entries
        fields) : Spelt spelt m (.object fields)

/-- A configuration. Everything may be left out where it has its default. -/
inductive Configuration.Spelt : Configuration → Json → Prop
  | mk {c : Configuration} {packages inputs outputDirectory packageDepth singleModule logLevel
        nullability modelFilter restFilter converters customTypes : Option Json}
      (hpackages : Json.Items (Is .text) c.packages packages)
      (hinputs : Json.Items (Is .text) c.inputs inputs)
      (houtput : Detail (Is .text) "generated" c.outputDirectory outputDirectory)
      (hdepth : Detail (Is fun n : Nat => .int n) 2 c.packageDepth packageDepth)
      (hsingle : Detail (OrNull (Is .text)) none c.singleModule singleModule)
      (hlevel : Detail (Is .text) "info" c.logLevel logLevel)
      (hnullability : Detail (Is fun n : Nullability => .text n.name) .standard c.nullability
        nullability)
      (hmodel : Detail (Is Filter.toJson) .rejectAll c.modelFilter modelFilter)
      (hrest : Detail (Is Filter.toJson) .rejectAll c.restFilter restFilter)
      (hconverters : Detail ConverterOptions.Spelt (none, none) (c.model, c.rest) converters)
      (hcustom : Detail (NameMap.Spelt CustomTarget.Spelt) ∅ c.customTypes customTypes) :
      Spelt c (.recordOf [("packages", packages), ("input", inputs), ("output_dir", outputDirectory),
        ("package_depth", packageDepth), ("single_module", singleModule), ("log_level", logLevel),
        ("nullable_strategy", nullability), ("model_filter", modelFilter),
        ("rest_filter", restFilter), ("converters", converters), ("custom_types", customTypes)])

/-! ## Reading -/

/-- A detail that is written in one way only, or left out. -/
theorem reads_is {α : Type} {write : α → Json} {default a : α} {field : Option Json}
    (h : Detail (Is write) default a field) {read : Json → Json.Decoded α}
    (hread : read (write a) = .ok a) : Reads read (some default) field a :=
  h.reads fun _ hv => (congrArg read hv).trans hread

theorem ModelOptions.ofJson_of_spelt {o : ModelOptions} {v : Json} (h : o.Spelt v) :
    ofJson .plain v = .ok o := by
  obtain ⟨hincluded⟩ := h
  rw [ofJson]
  refine Json.bind_asRecord (by simp) fun form hholds => ?_
  have hincluded : (form.get "include_ignored" Json.asBool).Gives (some false) o.includeIgnored :=
    hholds.gives "include_ignored" (reads_is hincluded rfl)
  simp only [bind, Except.bind]
  rw [hholds.settle (by simp [hincluded.fault?])]
  simp only [hincluded.orElse, pure, Except.pure]

theorem RestOptions.ofJson_of_spelt {o : RestOptions} {v : Json} (h : o.Spelt v) :
    ofJson .plain v = .ok o := by
  obtain ⟨hwrapper, hmodule⟩ := h
  rw [ofJson]
  refine Json.bind_asRecord (by simp) fun form hholds => ?_
  have hwrapper : (form.get "response_wrapper" Json.asText).Gives (some "Promise") o.wrapper :=
    hholds.gives "response_wrapper" (reads_is hwrapper rfl)
  have hmodule := hholds.gives "wrapper_module" (hmodule.reads fun _ => asOption_text)
  simp only [bind, Except.bind]
  rw [hholds.settle (by simp [hwrapper.fault?, hmodule.fault?])]
  simp only [hwrapper.orElse, hmodule.orElse, pure, Except.pure]

theorem CustomTarget.ofJson_of_spelt {t : CustomTarget} {v : Json} (h : t.Spelt v) :
    ofJson .plain v = .ok t := by
  obtain ⟨hmodule⟩ := h
  rw [ofJson]
  refine Json.bind_asRecord (by simp) fun form hholds => ?_
  have hname := hholds.gives_text "name" rfl
  have hmodule := hholds.gives "module" (hmodule.reads fun _ => asOption_text)
  simp only [bind, Except.bind]
  rw [hholds.settle (by simp [hname.fault?, hmodule.fault?])]
  simp only [hname.required, hmodule.orElse, pure, Except.pure]

/-- Options with all their defaults may be an empty record, but `null` is no options. -/
theorem ModelOptions.ofJson_null (o : ModelOptions) : ofJson .plain .null ≠ .ok o := by
  simp [ofJson, Json.asRecord, bind, Except.bind]

theorem RestOptions.ofJson_null (o : RestOptions) : ofJson .plain .null ≠ .ok o := by
  simp [ofJson, Json.asRecord, bind, Except.bind]

theorem converterOptions_of_spelt {options : Option ModelOptions × Option RestOptions} {v : Json}
    (h : ConverterOptions.Spelt options v) : converterOptions .plain v = .ok options := by
  obtain ⟨hmodel, hrest⟩ := h
  rw [converterOptions]
  refine Json.bind_asRecord (by simp) fun form hholds => ?_
  have hmodel := hholds.gives "model" (hmodel.reads fun _ hv =>
    hv.asOption_eq (fun _ _ _ => ModelOptions.ofJson_of_spelt) ModelOptions.ofJson_null)
  have hrest := hholds.gives "rest" (hrest.reads fun _ hv =>
    hv.asOption_eq (fun _ _ _ => RestOptions.ofJson_of_spelt) RestOptions.ofJson_null)
  simp only [bind, Except.bind]
  rw [hholds.settle (by simp [hmodel.fault?, hrest.fault?])]
  simp only [hmodel.orElse, hrest.orElse, pure, Except.pure]

section

variable {α : Type} {spelt : α → Json → Prop} {read : Json → Json.Decoded α} {m : NameMap α}

theorem NameMap.Spelt.asMap_eq {v : Json} (h : m.Spelt spelt v)
    (hread : ∀ a v, spelt a v → read v = .ok a) : Json.asMap read v = .ok m.entries := by
  obtain ⟨hfields⟩ := h
  rw [Json.asMap]
  generalize m.entries = entries at hfields
  induction hfields with
  | nil => rfl
  | @cons entry field _ _ hfirst _ ih =>
      obtain ⟨name, a⟩ := entry
      obtain ⟨_, v⟩ := field
      obtain ⟨rfl, hv⟩ := hfirst
      have hok : read v = .ok a := hread a v hv
      rw [List.mapM_cons, ih]
      show ((read v).map _ >>= _) = _
      rw [hok]
      rfl

/-- A map that is spelt, or left out when it is empty, is read entry by entry. -/
theorem reads_entries {field : Option Json} (h : Detail (NameMap.Spelt spelt) ∅ m field)
    (hread : ∀ a v, spelt a v → read v = .ok a) :
    Reads (Json.asMap read) (some []) field m.entries := by
  cases h with
  | absent => rfl
  | present hv => exact hv.asMap_eq hread

end

theorem reads_paths {paths : List String} {field : Option Json}
    (h : Json.Items (Is .text) paths field) :
    Reads (Json.listOf Json.asPath) (some []) field paths :=
  h.reads (by rintro _ _ _ rfl; rfl)

theorem isNarrow_natCast {n : Nat} (h : n < Nat.pow 2 64) : Json.isNarrow n = true := by
  simp only [Json.isNarrow, Bool.and_eq_true, decide_eq_true_eq]
  omega

theorem asNatural_int {n : Nat} (h : n < Nat.pow 2 64) : Json.asNatural (.int n) = .ok n := by
  show Json.asNatural (.int (.ofNat n)) = .ok n
  rw [Json.asNatural]
  exact if_pos (isNarrow_natCast h)

theorem Nullability.asName_name (manner : Json.Manner) (n : Nullability) :
    Json.asName manner Nullability.named (.text n.name) = .ok n :=
  asName_of_variant (by cases n <;> rfl)

theorem reads_filter {f : FilterSpec} {field : Option Json}
    (h : Detail (Is Filter.toJson) .rejectAll f field) :
    Reads (Filter.ofJson .plain) (some .rejectAll) field f :=
  reads_is h (f.ofJson_written (by simp))

/-- Every spelling of a configuration is read as it. Depths are numbers of machine size. -/
theorem Configuration.ofJson_of_spelt {c : Configuration} {v : Json} (hword : c.packageDepth < Nat.pow 2 64)
    (h : c.Spelt v) : ofJson .plain v = .ok c := by
  obtain ⟨hpackages, hinputs, houtput, hdepth, hsingle, hlevel, hnullability, hmodel, hrest,
    hconverters, hcustom⟩ := h
  rw [ofJson]
  refine Json.bind_asRecord (by simp) fun form hholds => ?_
  have hpackages := hholds.gives "packages" (reads_texts hpackages)
  have hinputs := hholds.gives "input" (reads_paths hinputs)
  have houtput : (form.get "output_dir" Json.asPath).Gives (some "generated") c.outputDirectory :=
    hholds.gives "output_dir" (reads_is houtput rfl)
  have hdepth := hholds.gives "package_depth" (reads_is hdepth (asNatural_int hword))
  have hsingle := hholds.gives "single_module" (hsingle.reads fun _ => asOption_text)
  have hlevel : (form.get "log_level" Json.asText).Gives (some "info") c.logLevel :=
    hholds.gives "log_level" (reads_is hlevel rfl)
  have hnullability := hholds.gives "nullable_strategy"
    (reads_is hnullability (c.nullability.asName_name .plain))
  have hmodel := hholds.gives "model_filter" (reads_filter hmodel)
  have hrest := hholds.gives "rest_filter" (reads_filter hrest)
  have hconverters := hholds.gives "converters"
    (hconverters.reads fun _ => converterOptions_of_spelt)
  have hcustom := hholds.gives "custom_types"
    (reads_entries hcustom fun _ _ => CustomTarget.ofJson_of_spelt)
  simp only [bind, Except.bind]
  rw [hholds.settle (by simp [hpackages.fault?, hinputs.fault?, houtput.fault?, hdepth.fault?,
    hsingle.fault?, hlevel.fault?, hnullability.fault?, hmodel.fault?, hrest.fault?,
    hconverters.fault?, hcustom.fault?])]
  simp only [hpackages.orElse, hinputs.orElse, houtput.orElse, hdepth.orElse, hsingle.orElse,
    hlevel.orElse, hnullability.orElse, hmodel.orElse, hrest.orElse, hconverters.orElse,
    hcustom.orElse, pure, Except.pure, NameMap.ofList_entries]

/-! ## Depths that are read -/

theorem exists_of_bind {ε α β : Type} {x : Except ε α} {f : α → Except ε β} {b : β}
    (h : (x >>= f) = .ok b) : ∃ a, x = .ok a ∧ f a = .ok b := by
  cases x with
  | error fault => cases h
  | ok a => exact ⟨a, rfl, h⟩

theorem lt_of_asNatural {v : Json} {n : Nat} (h : Json.asNatural v = .ok n) : n < Nat.pow 2 64 := by
  rw [Json.asNatural.eq_def] at h
  split at h
  · split at h
    · rename_i hnarrow
      obtain rfl := Except.ok.inj h
      simp only [Json.isNarrow, Bool.and_eq_true, decide_eq_true_eq] at hnarrow
      omega
    · cases h
  · cases h
  · cases h

theorem lt_of_orElse {v : Json} {form : Json.Form v} {name : String} {fallback n : Nat}
    (hfallback : fallback < Nat.pow 2 64)
    (h : (form.get name Json.asNatural).orElse fallback = .ok n) : n < Nat.pow 2 64 := by
  rw [Json.Form.get, Json.Form.read] at h
  split at h
  · obtain rfl := Except.ok.inj h
    exact hfallback
  · exact lt_of_asNatural h

/-- The depth of a configuration that was read is a number of machine size. -/
theorem Configuration.depth_of_ofJson {manner : Json.Manner} {v : Json} {c : Configuration}
    (h : ofJson manner v = .ok c) : c.packageDepth < Nat.pow 2 64 := by
  rw [ofJson] at h
  obtain ⟨form, _, h⟩ := exists_of_bind h
  obtain ⟨_, _, h⟩ := exists_of_bind h
  obtain ⟨⟨model, rest⟩, _, h⟩ := exists_of_bind h
  obtain ⟨packages, _, h⟩ := exists_of_bind h
  obtain ⟨inputs, _, h⟩ := exists_of_bind h
  obtain ⟨output, _, h⟩ := exists_of_bind h
  obtain ⟨depth, hdepth, h⟩ := exists_of_bind h
  obtain ⟨single, _, h⟩ := exists_of_bind h
  obtain ⟨level, _, h⟩ := exists_of_bind h
  obtain ⟨nullability, _, h⟩ := exists_of_bind h
  obtain ⟨modelFilter, _, h⟩ := exists_of_bind h
  obtain ⟨restFilter, _, h⟩ := exists_of_bind h
  obtain ⟨custom, _, h⟩ := exists_of_bind h
  obtain rfl := Except.ok.inj h
  exact lt_of_orElse (by decide) hdepth

/-! ## Writing -/

theorem ModelOptions.spelt_toJson (o : ModelOptions) : o.Spelt o.toJson := by
  rw [toJson, Json.record_eq_recordOf]
  exact .mk (.present rfl)

theorem RestOptions.spelt_toJson (o : RestOptions) : o.Spelt o.toJson := by
  rw [toJson, Json.record_eq_recordOf]
  exact .mk (.present rfl) (.present (Json.orNull_orNull fun _ _ => rfl))

theorem CustomTarget.spelt_toJson (t : CustomTarget) : t.Spelt t.toJson := by
  rw [toJson, Json.record_eq_recordOf]
  exact .mk (.present (Json.orNull_orNull fun _ _ => rfl))

/-- The names of a map ascend, so its entries stay in their order when they are written. -/
theorem NameMap.spelt_record {α : Type} {spelt : α → Json → Prop} {write : α → Json} (m : NameMap α)
    (h : ∀ a, spelt a (write a)) :
    m.Spelt spelt (.record (m.entries.map fun (name, a) => (name, write a))) := by
  show m.Spelt spelt (.record (m.map write).entries)
  rw [Json.record_of_ascending (m.map write).ascending]
  exact .mk (List.forall₂_map_right_iff.mpr (List.forall₂_same.mpr fun entry _ => ⟨rfl, h entry.2⟩))

/-- The written form is a spelling that leaves nothing out. -/
theorem Configuration.spelt_toJson (c : Configuration) : c.Spelt c.toJson := by
  have hconverters : ConverterOptions.Spelt (c.model, c.rest)
      (.record [("model", Json.orNull ModelOptions.toJson c.model),
        ("rest", Json.orNull RestOptions.toJson c.rest)]) := by
    rw [Json.record_eq_recordOf]
    exact .mk (.present (Json.orNull_orNull fun o _ => o.spelt_toJson))
      (.present (Json.orNull_orNull fun o _ => o.spelt_toJson))
  rw [toJson, Json.record_eq_recordOf]
  exact .mk (Json.items_map fun _ _ => rfl) (Json.items_map fun _ _ => rfl) (.present rfl)
    (.present rfl) (.present (Json.orNull_orNull fun _ _ => rfl)) (.present rfl) (.present rfl)
    (.present rfl) (.present rfl) (.present hconverters)
    (.present (c.customTypes.spelt_record CustomTarget.spelt_toJson))

/-! ## Round trip -/

/-- Every configuration is read back as it was written, and so is every filter on its own; what a
configuration may be spelt as otherwise is read as it, too. A configuration that was read back has the
filters, converters and targets of the original, and makes the same setup. -/
theorem Configuration.read_written (c : Configuration) (hword : c.packageDepth < Nat.pow 2 64) :
    ofJson .plain c.toJson = .ok c ∧
      (∀ f : FilterSpec, Filter.ofJson .plain f.toJson = .ok f) ∧
      (∀ v, c.Spelt v → ofJson .plain v = .ok c) ∧
      ∀ back, ofJson .plain c.toJson = .ok back →
        back.modelFilter.ready = c.modelFilter.ready ∧ back.restFilter.ready = c.restFilter.ready ∧
          back.converters = c.converters ∧ back.custom = c.custom ∧ back.setup = c.setup := by
  have hread : ofJson .plain c.toJson = .ok c := ofJson_of_spelt hword c.spelt_toJson
  refine ⟨hread, fun f => f.ofJson_written (by simp), fun v hv => ofJson_of_spelt hword hv,
    fun back hback => ?_⟩
  obtain rfl : c = back := Except.ok.inj (hread.symm.trans hback)
  exact ⟨rfl, rfl, rfl, rfl, rfl⟩

/-- A configuration with filters inside filters, a kind of markers of its own and a chosen target comes
back; and an empty table of options is told apart from an absent one. -/
theorem Configuration.read_nested :
    ofJson .plain (Configuration.toJson
      { packages := ["shop"], singleModule := some "api", nullability := .markerOnly
        modelFilter := .and [.not (.or []), .or [.hasMarker (.other "Entity"), .pattern "^shop[.]"]]
        model := some { includeIgnored := true }
        customTypes := NameMap.ofList [("shop.Money", { name := "Big", module := some "big.js" })] }) =
      .ok { packages := ["shop"], singleModule := some "api", nullability := .markerOnly
            modelFilter :=
              .and [.not (.or []), .or [.hasMarker (.other "Entity"), .pattern "^shop[.]"]]
            model := some { includeIgnored := true }
            customTypes :=
              NameMap.ofList [("shop.Money", { name := "Big", module := some "big.js" })] } ∧
    ofJson .plain (.object [("converters", .object [("model", .object []), ("rest", .null)])]) =
      .ok { model := some {} } := by
  refine ⟨(read_written _ (by decide)).1, ?_⟩
  have hoptions : ModelOptions.Spelt {} (.recordOf [("include_ignored", none)]) := .mk .absent
  have hconverters : ConverterOptions.Spelt (some {}, none)
      (.recordOf [("model", some (.recordOf [("include_ignored", none)])), ("rest", some .null)]) :=
    .mk (.present (.some hoptions)) (.present .none)
  exact (read_written { model := some {} } (by decide)).2.2.1
    (.recordOf [("packages", none), ("input", none), ("output_dir", none), ("package_depth", none),
      ("single_module", none), ("log_level", none), ("nullable_strategy", none),
      ("model_filter", none), ("rest_filter", none), ("converters", some _), ("custom_types", none)])
    (.mk .absent .absent .absent .absent .absent .absent .absent .absent .absent
      (.present hconverters) .absent)

end TypeGraph
