import StyleTokens.Proofs.Cache.Key
import StyleTokens.Proofs.Json.Reordering

/-!
# What a stylesheet's key depends on

A registry holds checked presets, or maps of fields that nobody has checked. Either way the canonical
text that the key is the digest of tells the ids in order, the labels, and the properties in order;
of the settings, and inside of a label or a value, it tells all but the order of map entries.
-/

namespace StyleTokens

open Json (IsDocument Reordered)

namespace Json

end Json

/-- A preset that a stylesheet is made from. -/
inductive PresetForm where
  /-- A preset that was checked when it was read. -/
  | checked (preset : Preset)
  /-- Fields that nobody has checked. -/
  | unchecked (fields : Value.Entries)

namespace PresetForm

/-- What stands for the label. -/
def label : PresetForm → Value
  | checked preset => .str preset.label
  | unchecked fields => fields.get "label"

/-- The properties in order; what is no map of properties holds none. -/
def properties : PresetForm → PropertyBag
  | checked preset => preset.properties
  | unchecked fields =>
    match fields.get "properties" with
    | .map properties => bagOfEntries properties
    | _ => []

end PresetForm

/-- A registry, checked or not, and settings. -/
structure SheetSource where
  /-- The presets by id. -/
  presets : Keyed PresetForm
  /-- The settings. -/
  flags : Value.Entries

namespace SheetSource

/-- All that the stylesheet is made from. -/
def inputs (source : SheetSource) : Value :=
  sheetInputs (source.presets.map fun (id, form) =>
    .list [.str id, presetInputs form.label form.properties]) source.flags

/-- Labels, properties and settings can be held by documents. -/
structure HoldsDocuments (source : SheetSource) : Prop where
  /-- Every label. -/
  labels : ∀ entry ∈ source.presets, IsDocument entry.2.label
  /-- Every property of every preset. -/
  properties : ∀ entry ∈ source.presets, ∀ property ∈ entry.2.properties, IsDocument property.2
  /-- The settings. -/
  flags : IsDocument (.map source.flags)

/-- All that a stylesheet is made from can be held by a document. -/
theorem HoldsDocuments.inputs {source : SheetSource} (h : source.HoldsDocuments) :
    IsDocument source.inputs := by
  refine isDocument_pair (by simp) ?_ h.flags
  rw [IsDocument, Json.areDocuments_iff]
  intro item hitem
  obtain ⟨entry, hentry, rfl⟩ := List.mem_map.mp hitem
  simp [IsDocument, Json.AreDocuments, Json.IsAtom,
    isDocument_presetInputs (h.labels entry hentry) (h.properties entry hentry)]

end SheetSource

end StyleTokens
