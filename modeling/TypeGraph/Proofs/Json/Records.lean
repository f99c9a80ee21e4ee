import Mathlib.Data.List.Forall2
import TypeGraph.Json.Decode

/-!
# Reading back what was written

A record is written as an object in key order, and its reader finds every field under its name again
(`asRecord_recordOf`, `asTagged_taggedOf`). A value may be spelt in more than one way, since a detail
that has its default may be left out; relations between values and their spellings are put together from
those of their parts (`Detail`, `Items`, `OrNull`). For each of them one lemma says that a decoder which
reads all spellings of the parts reads the whole.
-/

namespace TypeGraph.Json

variable {α : Type}

/-! ## Entries of written records -/

theorem get?_insertEntry (key name : String) (value : Json) (entries : List (String × Json)) :
    get? name (.object (insertEntry key value entries)) =
      if key = name then some value else get? name (.object entries) := by
  induction entries with
  | nil => by_cases h : key = name <;> simp [insertEntry, get?, h]
  | cons entry rest ih =>
      obtain ⟨k, v⟩ := entry
      simp only [get?, insertEntry] at ih ⊢
      split
      · by_cases h : key = name <;> simp [h]
      · split
        · rename_i heq
          subst heq
          by_cases h : key = name <;> simp [h]
        · rename_i hne
          by_cases hk : k = name
          · have hkey : key ≠ name := hk ▸ hne
            simp [hk, hkey]
          · simpa [hk] using ih

theorem lookup_eq_none_of_not_mem {fields : List (String × α)} {name : String}
    (h : name ∉ fields.map (·.1)) : fields.lookup name = none := by
  rw [List.lookup_eq_none_iff]
  rintro ⟨k, v⟩ hmem
  rw [bne_iff_ne]
  rintro rfl
  exact h (List.mem_map_of_mem hmem)

/-- The entry of a written record under a name is the field of that name, if it is there. -/
theorem get?_recordOf {fields : List (String × Option Json)} (hn : (fields.map (·.1)).Nodup)
    (name : String) : get? name (recordOf fields) = (fields.lookup name).join := by
  have hfold : ∀ sorted : List (String × Json),
      get? name (.object ((fields.filterMap fun field => field.2.map fun v => (field.1, v)).foldl
        (fun sorted entry => insertEntry entry.1 entry.2 sorted) sorted)) =
          ((fields.lookup name).join).or (get? name (.object sorted)) := by
    induction fields with
    | nil => simp
    | cons field rest ih =>
        obtain ⟨k, o⟩ := field
        obtain ⟨hfirst, hrest⟩ := List.nodup_cons.mp hn
        intro sorted
        by_cases h : name = k
        · subst h
          have hnone : rest.lookup name = none := lookup_eq_none_of_not_mem hfirst
          cases o with
          | none => simpa [hnone] using ih hrest sorted
          | some v => simpa [hnone, get?_insertEntry] using ih hrest (insertEntry name v sorted)
        · have hname : (name == k) = false := beq_eq_false_iff_ne.mpr h
          cases o with
          | none => simpa [hname, List.lookup_cons] using ih hrest sorted
          | some v =>
              simpa [hname, List.lookup_cons, get?_insertEntry, Ne.symm h] using
                ih hrest (insertEntry k v sorted)
  exact (hfold []).trans (Option.or_none ..)

theorem record_eq_recordOf (fields : List (String × Json)) :
    record fields = recordOf (fields.map fun (k, v) => (k, some v)) := by
  simp [record, recordOf, List.filterMap_map]

/-! ## Fields of forms -/

/-- The value of a field of a form. -/
def Form.at? {v : Json} (form : Form v) (name : String) : Option Json :=
  (locate name form.slots 0).map (·.2.1)

/-- A form holds some fields, and has no surplus items. -/
structure Form.Holds {v : Json} (form : Form v) (fields : List (String × Option Json)) : Prop where
  surplus : form.surplus = none
  field : ∀ name, form.at? name = (fields.lookup name).join

theorem map_locate_eq {v : Json} (name : String) (parts : List (String × Part v)) (position : Nat) :
    (locate name parts position).map (·.2.1) =
      get? name (.object (parts.map fun (k, w) => (k, w.1))) := by
  induction parts generalizing position with
  | nil => rfl
  | cons entry rest ih =>
      obtain ⟨k, w⟩ := entry
      by_cases h : k = name
      · simp [locate, get?, h]
      · simpa [locate, get?, h] using ih (position + 1)

@[simp] theorem map_entryParts (entries : List (String × Json)) :
    (entryParts entries).map (fun (k, w) => (k, w.1)) = entries := by
  rw [entryParts, List.map_map]
  exact List.attach_map_subtype_val entries

/-- The reader of a record finds its fields. -/
theorem asRecord_recordOf (manner : Manner) (type : String) (names : List String)
    {fields : List (String × Option Json)} (hn : (fields.map (·.1)).Nodup) :
    ∃ form, asRecord manner type names (recordOf fields) = .ok form ∧ form.Holds fields := by
  refine ⟨_, rfl, rfl, fun name => ?_⟩
  rw [← get?_recordOf hn]
  exact (map_locate_eq name _ 0).trans
    (congrArg (fun entries => get? name (.object entries)) (map_entryParts _))

theorem bind_asRecord {fields : List (String × Option Json)} {manner : Manner} {type : String}
    {names : List String} {k : Form (recordOf fields) → Decoded α} {a : α}
    (hn : (fields.map (·.1)).Nodup) (h : ∀ form, Form.Holds form fields → k form = .ok a) :
    (asRecord manner type names (recordOf fields) >>= k) = .ok a := by
  obtain ⟨form, hform, hholds⟩ := asRecord_recordOf manner type names hn
  rw [hform]
  exact h form hholds

/-- A record whose first field is a tag. -/
def taggedOf (tag label : String) (fields : List (String × Option Json)) : Json :=
  recordOf ((tag, some (.text label)) :: fields)

/-- A tagged value has a tag, and some fields besides it. -/
structure Tagged.Holds {v : Json} (tagged : Tagged v) (label : String)
    (fields : List (String × Option Json)) : Prop where
  label : tagged.label.1 = .text label
  form : ∀ variant names, (tagged.form variant names).Holds fields

theorem get?_filter_ne (tag name : String) (entries : List (String × Json)) :
    get? name (.object (entries.filter (·.1 != tag))) =
      if name = tag then none else get? name (.object entries) := by
  simp only [get?, List.find?_filter]
  by_cases h : name = tag
  · subst h
    simp
  · rw [if_neg h]
    congr 2
    funext entry
    by_cases hentry : entry.1 = name
    · simp [hentry, h]
    · simp [hentry]

theorem exists_find?_entryParts {entries : List (String × Json)} {name : String} {value : Json}
    (h : get? name (.object entries) = some value) :
    ∃ key part, (entryParts entries).find? (·.1 == name) = some (key, part) ∧ part.1 = value := by
  rw [← map_entryParts entries, get?, List.find?_map, Option.map_map] at h
  obtain ⟨⟨key, part⟩, hfind, hpart⟩ := Option.map_eq_some_iff.mp h
  exact ⟨key, part, hfind, hpart⟩

/-- The reader of a tagged value finds the tag and the fields besides it. -/
theorem asTagged_taggedOf {tag : String} (type label : String) {fields : List (String × Option Json)}
    (hn : (tag :: fields.map (·.1)).Nodup) :
    ∃ tagged, asTagged tag type (taggedOf tag label fields) = .ok tagged ∧
      tagged.Holds label fields := by
  have hn' : (((tag, some (Json.text label)) :: fields).map (·.1)).Nodup := hn
  have hget := get?_recordOf hn'
  have hnone : fields.lookup tag = none := lookup_eq_none_of_not_mem (List.nodup_cons.mp hn).1
  obtain ⟨entries, hentries⟩ :
      ∃ entries, recordOf ((tag, some (.text label)) :: fields) = .object entries := ⟨_, rfl⟩
  rw [taggedOf, hentries]
  rw [hentries] at hget
  have htag : get? tag (.object entries) = some (.text label) := by
    rw [hget, List.lookup_cons_self]
    rfl
  obtain ⟨key, part, hfind, hpart⟩ := exists_find?_entryParts htag
  refine ⟨{ label := part, content := .entries ((entryParts entries).filter (·.1 != tag)) }, ?_, hpart,
    fun variant names => ⟨rfl, fun name => ?_⟩⟩
  · simp only [asTagged, hfind]
  · have hslots : (((entryParts entries).filter (·.1 != tag)).map fun (k, w) => (k, w.1)) =
        entries.filter (·.1 != tag) := by
      conv_rhs => rw [← map_entryParts entries, List.filter_map]
      rfl
    have hfield : get? name (.object (entries.filter (·.1 != tag))) = (fields.lookup name).join := by
      rw [get?_filter_ne, hget]
      by_cases h : name = tag
      · rw [if_pos h, h, hnone]
        rfl
      · rw [if_neg h, List.lookup_cons, beq_eq_false_iff_ne.mpr h]
    exact ((map_locate_eq name _ 0).trans
      (congrArg (fun entries => get? name (.object entries)) hslots)).trans hfield

theorem bind_asTagged {tag type label : String} {fields : List (String × Option Json)}
    {k : Tagged (taggedOf tag label fields) → Decoded α} {a : α}
    (hn : (tag :: fields.map (·.1)).Nodup) (h : ∀ t, Tagged.Holds t label fields → k t = .ok a) :
    (asTagged tag type (taggedOf tag label fields) >>= k) = .ok a := by
  obtain ⟨tagged, htagged, hholds⟩ := asTagged_taggedOf type label hn
  rw [htagged]
  exact h tagged hholds

/-- The variant of a tagged value is the one that its tag names. -/
theorem Tagged.Holds.variant {v : Json} {tagged : Tagged v} {label : String}
    {fields : List (String × Option Json)} (h : tagged.Holds label fields) (manner : Manner)
    (known : List (String × α)) : tagged.variant manner known = variantNamed known label := by
  unfold Tagged.variant
  rw [h.label]

/-! ## Fields that are read -/

/-- A decoder reads a value from a field, or the field is missing and the value is the default. -/
def Reads (decode : Json → Decoded α) (default : Option α) (field : Option Json) (a : α) : Prop :=
  match field with
  | some v => decode v = .ok a
  | none => default = some a

/-- A slot gives a value, unless it is missing and the value is the default. -/
inductive Slot.Gives (default : Option α) (a : α) : Slot α → Prop
  | absent (name : String) (h : default = some a) : Gives default a (.absent name)
  | present (position : Nat) : Gives default a (.present position (.ok a))

namespace Slot.Gives

variable {default : Option α} {a b : α} {slot : Slot α}

@[simp] theorem fault? (h : slot.Gives default a) : slot.fault? = none := by
  cases h <;> rfl

theorem required {v : Json} {form : Form v} (h : slot.Gives none a) : slot.required form = .ok a := by
  cases h with
  | absent name hno => exact absurd hno (by simp)
  | present position => rfl

theorem orElse (h : slot.Gives (some b) a) : slot.orElse b = .ok a := by
  cases h with
  | absent name heq => exact congrArg Except.ok (Option.some.inj heq)
  | present position => rfl

end Slot.Gives

/-- Where a form holds a field that can be read, its slot gives the value. -/
theorem Form.Holds.gives {v : Json} {form : Form v} {fields : List (String × Option Json)}
    (h : form.Holds fields) (name : String) {decode : Json → Decoded α} {default : Option α} {a : α}
    (hreads : Reads decode default (fields.lookup name).join a) :
    (form.get name decode).Gives default a := by
  have hfield := h.field name
  rw [Form.at?] at hfield
  rw [Form.get, Form.read]
  cases hlocate : locate name form.slots 0 with
  | none =>
      rw [hlocate] at hfield
      rw [← hfield] at hreads
      exact .absent name hreads
  | some found =>
      obtain ⟨position, part⟩ := found
      rw [hlocate] at hfield
      rw [← hfield] at hreads
      have hslot : Slot.present position (decode part.1) = .present position (.ok a) :=
        congrArg (Slot.present position) hreads
      show Slot.Gives default a (.present position (decode part.1))
      rw [hslot]
      exact .present position

theorem Form.Holds.gives_text {v : Json} {form : Form v} {fields : List (String × Option Json)}
    (h : form.Holds fields) (name : String) {s : String}
    (hfield : (fields.lookup name).join = some (.text s)) : (form.get name asText).Gives none s :=
  h.gives name (by rw [hfield]; rfl)

theorem firstFault_eq_none {faults : List (Option (Nat × Fault))} (h : ∀ f ∈ faults, f = none) :
    firstFault faults = none := by
  induction faults with
  | nil => rfl
  | cons fault rest ih =>
      obtain rfl := h fault List.mem_cons_self
      exact ih fun f hf => h f (List.mem_cons_of_mem _ hf)

/-- A form without faults settles. -/
theorem Form.Holds.settle {v : Json} {form : Form v} {fields : List (String × Option Json)}
    (h : form.Holds fields) {faults : List (Option (Nat × Fault))} (hno : ∀ f ∈ faults, f = none) :
    form.settle faults = .ok () := by
  rw [Form.settle, firstFault_eq_none hno, h.surplus]

/-! ## Spellings -/

/-- A value is spelt as it is written. -/
def Is (write : α → Json) (a : α) (v : Json) : Prop := v = write a

/-- A detail is spelt in some way, or left out when it has its default. -/
inductive Detail (spelt : α → Json → Prop) (default : α) : α → Option Json → Prop
  | absent : Detail spelt default default none
  | present {a : α} {v : Json} (h : spelt a v) : Detail spelt default a (some v)

/-- A list is spelt item by item, or left out when it is empty. -/
inductive Items (spelt : α → Json → Prop) : List α → Option Json → Prop
  | absent : Items spelt [] none
  | present {as : List α} {vs : List Json} (h : List.Forall₂ spelt as vs) :
      Items spelt as (some (.list vs))

/-- What may be absent is spelt as `null` or as itself. -/
inductive OrNull (spelt : α → Json → Prop) : Option α → Json → Prop
  | none : OrNull spelt none .null
  | some {a : α} {v : Json} (h : spelt a v) : OrNull spelt (some a) v

section

variable {spelt : α → Json → Prop} {read : Json → Decoded α}

theorem Detail.reads {default a : α} {field : Option Json} (h : Detail spelt default a field)
    (hread : ∀ v, spelt a v → read v = .ok a) : Reads read (some default) field a := by
  cases h with
  | absent => rfl
  | present hv => exact hread _ hv

theorem listOf_eq_mapM (read : Json → Decoded α) (vs : List Json) :
    listOf read (.list vs) = vs.mapM read := by
  have hparts : (itemParts vs).map (fun w => w.1) = vs := by
    rw [itemParts, List.map_map]
    exact List.attach_map_subtype_val vs
  conv_rhs => rw [← hparts, List.mapM_map]
  rfl

theorem Items.reads {as : List α} {field : Option Json} (h : Items spelt as field)
    (hread : ∀ a ∈ as, ∀ v, spelt a v → read v = .ok a) :
    Reads (listOf read) (some []) field as := by
  cases h with
  | absent => rfl
  | present hitems =>
      show listOf read _ = .ok as
      rw [listOf_eq_mapM]
      induction hitems with
      | nil => rfl
      | cons hfirst _ ih =>
          rw [List.mapM_cons, hread _ List.mem_cons_self _ hfirst,
            ih fun a ha => hread a (List.mem_cons_of_mem _ ha)]
          rfl

theorem items_map {write : α → Json} {as : List α} (h : ∀ a ∈ as, spelt a (write a)) :
    Items spelt as (some (.list (as.map write))) :=
  .present (List.forall₂_map_right_iff.mpr (List.forall₂_same.mpr h))

theorem items_unlessEmpty {write : α → Json} {as : List α} (h : ∀ a ∈ as, spelt a (write a)) :
    Items spelt as (unlessEmpty write as) := by
  cases as with
  | nil => exact .absent
  | cons a rest => exact items_map h

theorem orNull_orNull {write : α → Json} {o : Option α} (h : ∀ a ∈ o, spelt a (write a)) :
    OrNull spelt o (orNull write o) := by
  cases o with
  | none => exact .none
  | some a => exact .some (h a rfl)

theorem OrNull.asOption_eq {o : Option α} {v : Json} (h : OrNull spelt o v)
    (hread : ∀ a ∈ o, ∀ v, spelt a v → read v = .ok a) (hnull : ∀ a, read .null ≠ .ok a) :
    asOption read v = .ok o := by
  cases h with
  | none => rfl
  | @some a v hv =>
      have hok := hread a rfl v hv
      cases v with
      | null => exact absurd hok (hnull a)
      | _ =>
          show (read _).map Option.some = _
          rw [hok]
          rfl

end

end TypeGraph.Json
