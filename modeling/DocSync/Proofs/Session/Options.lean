import DocSync.Protocol.Initialize
import DocSync.Proofs.Wire.Optional

/-! # What the first request asks for

Said without reading the options: they are the value of the member `initializationOptions`, and where
there is none, or `null`, none are asked for. The other members decide only whether the parameters
have their shape.
-/

namespace DocSync.Initialize

/-- The options that members ask for. -/
inductive AskedUnder (ms : Json.Members) : Option Json → Prop
  | absent (h : Json.under "initializationOptions" ms = []) : AskedUnder ms none
  | null (h : Json.under "initializationOptions" ms = [.null]) : AskedUnder ms none
  | given {j : Json} (h : Json.under "initializationOptions" ms = [j]) (hj : j ≠ .null) :
    AskedUnder ms (some j.normalize)

/-- The parameters have their shape, and ask for these options. -/
structure Asks (params : Json) (options : Option Json) : Prop where
  reads : ∃ v, paramsShape.read params = .ok v
  asked : ∃ ms, params = .object ms ∧ AskedUnder ms options

theorem finish_optional {key : String} {shape : Shape} {omission : Omission} {rest : Fields}
    {slot : Option (Option shape.Value)} {slots : rest.Slots}
    {v : (Fields.optional key shape omission rest).Value}
    (h : (Fields.optional key shape omission rest).finish (slot, slots) = .ok v) :
    v.1 = slot.join ∧ rest.finish slots = .ok v.2 := by
  obtain ⟨w, hw, hv⟩ := bind_eq_ok_iff.1 h
  cases hv
  exact ⟨rfl, hw⟩

section Options
variable {ms : Json.Members} {options options' : Option Json} {params : Json}

theorem AskedUnder.unique (h : AskedUnder ms options) (h' : AskedUnder ms options') :
    options = options' := by
  cases h <;> cases h' <;> simp_all

/-- What is read from the members under the key is what they ask for. -/
theorem askedUnder_of_readSlot {slot : Option (Option Shape.any.Value)}
    (h : (Json.under "initializationOptions" ms).foldlM
      (Fields.readSlot "initializationOptions" .any) none = .ok slot) :
    AskedUnder ms slot.join := by
  rcases (Fields.foldlM_readSlot _).1 ⟨slot, h, rfl⟩ with ⟨hnone, hv⟩ | ⟨j, hone, hv⟩
  · rw [hv]
    exact .absent hnone
  · by_cases hj : j = .null
    · subst hj
      rw [← Except.ok.inj hv]
      exact .null hone
    · rw [Fields.readOptional_of_ne_null hj, Shape.read] at hv
      rw [← Except.ok.inj hv]
      exact .given hone hj

/-- Three fields stand in front of the options, and their members do not matter to them. -/
theorem askedUnder_of_readMembers {slots : paramsFields.Slots} {v : paramsFields.Value}
    (h : paramsFields.readMembers paramsFields.empty ms = .ok slots)
    (hv : paramsFields.finish slots = .ok v) : AskedUnder ms v.2.2.2.1 := by
  obtain ⟨processId, rootPath, rootUri, given, rest⟩ := slots
  obtain ⟨-, h⟩ := Fields.readMembers_optional.1 h
  obtain ⟨-, h⟩ := Fields.readMembers_optional.1 h
  obtain ⟨-, h⟩ := Fields.readMembers_optional.1 h
  obtain ⟨h, -⟩ := Fields.readMembers_optional.1 h
  rw [Json.under_filter_ne (by decide), Json.under_filter_ne (by decide),
    Json.under_filter_ne (by decide)] at h
  obtain ⟨-, hv⟩ := finish_optional hv
  obtain ⟨-, hv⟩ := finish_optional hv
  obtain ⟨-, hv⟩ := finish_optional hv
  rw [(finish_optional hv).1]
  exact askedUnder_of_readSlot h

theorem asks_of_readOptions (h : readOptions params = .ok options) : Asks params options := by
  obtain ⟨⟨v, w⟩, hread, rfl⟩ := map_eq_ok_iff.1 h
  refine ⟨⟨_, hread⟩, ?_⟩
  cases params with
  | object ms =>
    change (Shape.extended "InitializeParams" paramsFields progressFields).read _ = _ at hread
    rw [Shape.read] at hread
    obtain ⟨slots, hslots, hread⟩ := bind_eq_ok_iff.1 hread
    obtain ⟨v', hv, hread⟩ := bind_eq_ok_iff.1 hread
    obtain ⟨extra, -, hread⟩ := bind_eq_ok_iff.1 hread
    obtain ⟨w', -, hread⟩ := bind_eq_ok_iff.1 hread
    cases hread
    exact ⟨ms, rfl, askedUnder_of_readMembers hslots hv⟩
  | _ => cases hread

/-- The options that are read are those that the parameters ask for, if these have their shape. -/
theorem readOptions_eq_ok_iff : readOptions params = .ok options ↔ Asks params options := by
  refine ⟨asks_of_readOptions, ?_⟩
  rintro ⟨⟨v, hread⟩, ms, rfl, hasked⟩
  have hv : readOptions (.object ms) = .ok (Initialize.options v) := map_eq_ok_iff.2 ⟨v, hread, rfl⟩
  obtain ⟨-, ms', hms, hasked'⟩ := asks_of_readOptions hv
  cases hms
  rw [hv, hasked.unique hasked']

theorem readOptions_eq_error_iff {e : DecodeError} :
    readOptions params = .error e ↔ paramsShape.read params = .error e := by
  rw [readOptions]
  cases paramsShape.read params <;> simp [Except.map]

end Options

end DocSync.Initialize
