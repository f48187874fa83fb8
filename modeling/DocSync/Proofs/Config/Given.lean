import DocSync.Proofs.Wire.Optional
import DocSync.Proofs.Wire.RoundTrip

/-! # What a value says about the settings

Said without the reader: a word has two spellings, a valid value is an object or the array of both
settings, and each of them may be left open. Reading finds the options of exactly the valid values.
-/

namespace DocSync

namespace Json

/-- A word is spelled as a string, or as the only key of an object, over `null`. -/
inductive Spells (w : String) : Json → Prop
  | string : Spells w (.string w)
  | key : Spells w (.object [(w, .null)])

variable {α : Type} {word : α → String}

/-- What a value says about a setting: nothing, or the setting whose word it spells. -/
inductive Says (word : α → String) : Json → Option α → Prop
  | nothing : Says word .null none
  | spelled {j : Json} {x : α} (h : Spells (word x) j) : Says word j (some x)

/-- What members say under a key: nothing if there is none, or what the only one says. -/
inductive SaysUnder (word : α → String) (key : String) (ms : Members) : Option α → Prop
  | absent (h : under key ms = []) : SaysUnder word key ms none
  | present {j : Json} {x? : Option α} (h : under key ms = [j]) (hj : Says word j x?) :
    SaysUnder word key ms x?

end Json

def ReopenPolicy.word : ReopenPolicy → String
  | .reject => "reject"
  | .replace => "replace"

def VersionPolicy.word : VersionPolicy → String
  | .overwrite => "overwrite"
  | .strict => "strict"

/-- The options that a valid value gives: an object with members for them, or the array of both. -/
inductive Options.Given : Json → Options → Prop
  | object {ms : Json.Members} {o : Options}
    (hreopen : Json.SaysUnder ReopenPolicy.word "reopen" ms o.reopen)
    (hversion : Json.SaysUnder VersionPolicy.word "version_policy" ms o.versionPolicy) :
    Given (.object ms) o
  | array {j k : Json} {o : Options} (hreopen : Json.Says ReopenPolicy.word j o.reopen)
    (hversion : Json.Says VersionPolicy.word k o.versionPolicy) : Given (.array [j, k]) o

section Words
variable {variants : List String} {j : Json}

theorem readChoice_eq_ok_iff (h : variants.Nodup) {i : Fin variants.length} :
    readChoice variants j = .ok i ↔ Json.Spells (variants.get i) j := by
  constructor
  · intro hi
    unfold readChoice at hi
    split at hi
    · next s =>
      rw [← (readVariant_eq_ok_iff h).1 hi]
      exact .string
    · next s k =>
      obtain ⟨i', hs, hi⟩ := bind_eq_ok_iff.1 hi
      split at hi
      · cases hi
        rw [← (readVariant_eq_ok_iff h).1 hs]
        exact .key
      · cases hi
    · cases hi
    · cases hi
  · have hword : readVariant variants (variants.get i) = .ok i := (readVariant_eq_ok_iff h).2 rfl
    rintro (_ | _)
    · exact hword
    · rw [readChoice, hword]
      rfl

end Words

section Settings
variable {α : Type} {variants : List String} {ofValue : Fin variants.length → α}
  {word : α → String} {x? : Option α}

/-- The words of a choice stand for the settings, one for each. -/
structure Spelling (variants : List String) (ofValue : Fin variants.length → α)
    (word : α → String) : Prop where
  nodup : variants.Nodup
  word_ofValue : ∀ i, word (ofValue i) = variants.get i
  exists_ofValue : ∀ x, ∃ i, ofValue i = x

theorem ReopenPolicy.spelling : Spelling _ ReopenPolicy.ofValue ReopenPolicy.word where
  nodup := faithful_reopenPolicy
  word_ofValue := by decide
  exists_ofValue p := ⟨p.toValue, Wire.ofValue_toValue p⟩

theorem VersionPolicy.spelling : Spelling _ VersionPolicy.ofValue VersionPolicy.word where
  nodup := faithful_versionPolicy
  word_ofValue := by decide
  exists_ofValue p := ⟨p.toValue, Wire.ofValue_toValue p⟩

/-- A setting is read from the values that say it, and from no others. -/
theorem Spelling.readOptional (h : Spelling variants ofValue word) {j : Json} :
    (∃ v, Fields.readOptional (.choice variants) j = .ok v ∧ v.map ofValue = x?) ↔
      Json.Says word j x? := by
  by_cases hj : j = .null
  · subst hj
    constructor
    · rintro ⟨v, hv, rfl⟩
      cases hv
      exact .nothing
    · rintro (_ | hspells)
      · exact ⟨none, rfl, rfl⟩
      · cases hspells
  · rw [Fields.readOptional_of_ne_null hj]
    constructor
    · rintro ⟨v, hv, rfl⟩
      obtain ⟨i, hi, rfl⟩ := map_eq_ok_iff.1 hv
      refine .spelled ?_
      rw [h.word_ofValue]
      exact (readChoice_eq_ok_iff h.nodup).1 hi
    · rintro (_ | hspells)
      · exact absurd rfl hj
      · next x =>
        obtain ⟨i, rfl⟩ := h.exists_ofValue x
        rw [h.word_ofValue] at hspells
        exact ⟨some i, map_eq_ok_iff.2 ⟨i, (readChoice_eq_ok_iff h.nodup).2 hspells, rfl⟩, rfl⟩

/-- What members say under a key is what is read into the field of that key. -/
theorem Spelling.readSlot (h : Spelling variants ofValue word) {key : String} {ms : Json.Members} :
    (∃ slot, (Json.under key ms).foldlM (Fields.readSlot key (.choice variants)) none = .ok slot ∧
      slot.join.map ofValue = x?) ↔ Json.SaysUnder word key ms x? := by
  constructor
  · rintro ⟨slot, hslot, rfl⟩
    rcases (Fields.foldlM_readSlot key).1 ⟨slot, hslot, rfl⟩ with ⟨hnone, hv⟩ | ⟨j, hone, hv⟩
    · rw [hv]
      exact .absent hnone
    · exact .present hone (h.readOptional.1 ⟨_, hv, rfl⟩)
  · rintro (hnone | ⟨hone, hj⟩)
    · rw [hnone]
      exact ⟨none, rfl, rfl⟩
    · obtain ⟨v, hv, rfl⟩ := h.readOptional.2 hj
      obtain ⟨slot, hslot, rfl⟩ := (Fields.foldlM_readSlot key).2 (.inr ⟨_, hone, hv⟩)
      exact ⟨slot, hslot, rfl⟩

end Settings

section Options

theorem Fields.readMembers_of_nil (ms : Json.Members) : Fields.nil.readMembers () ms = .ok () := by
  induction ms with
  | nil => rfl
  | cons m ms ih => exact ih

abbrev Options.fields : Fields :=
  .optional "reopen" ReopenPolicy.shape .asNull
    (.optional "version_policy" VersionPolicy.shape .asNull .nil)

theorem read_options (j : Json) : (Wire.read j : Except DecodeError Options) =
    ((Shape.record "HareLspOptions" Options.fields).read j).map fun (r, v, ()) =>
      ⟨r.map ReopenPolicy.ofValue, v.map VersionPolicy.ofValue⟩ := rfl

/-- The two options are read apart from each other. -/
theorem readMembers_options {ms : Json.Members} {r : Option (Option ReopenPolicy.shape.Value)}
    {v : Option (Option VersionPolicy.shape.Value)} :
    Options.fields.readMembers (none, none, ()) ms = .ok (r, v, ()) ↔
      (Json.under "reopen" ms).foldlM (Fields.readSlot "reopen" ReopenPolicy.shape) none = .ok r ∧
      (Json.under "version_policy" ms).foldlM
        (Fields.readSlot "version_policy" VersionPolicy.shape) none = .ok v := by
  refine Fields.readMembers_optional.trans (and_congr_right' ?_)
  refine Fields.readMembers_optional.trans ?_
  rw [Json.under_filter_ne (by decide), Fields.readMembers_of_nil]
  simp

theorem read_options_object {ms : Json.Members} {o : Options} :
    Wire.read (.object ms) = .ok o ↔
      Json.SaysUnder ReopenPolicy.word "reopen" ms o.reopen ∧
        Json.SaysUnder VersionPolicy.word "version_policy" ms o.versionPolicy := by
  rw [← ReopenPolicy.spelling.readSlot, ← VersionPolicy.spelling.readSlot, read_options,
    Fields.read_record_object, map_eq_ok_iff]
  constructor
  · rintro ⟨⟨r?, v?, ⟨⟩⟩, hread, rfl⟩
    obtain ⟨⟨r, v, ⟨⟩⟩, hm, hfinish⟩ := bind_eq_ok_iff.1 hread
    cases hfinish
    obtain ⟨hr, hv⟩ := readMembers_options.1 hm
    exact ⟨⟨r, hr, rfl⟩, ⟨v, hv, rfl⟩⟩
  · obtain ⟨ro, vo⟩ := o
    rintro ⟨⟨r, hr, rfl⟩, ⟨v, hv, rfl⟩⟩
    have hm : Options.fields.readMembers Options.fields.empty ms = .ok (r, v, ()) :=
      readMembers_options.2 ⟨hr, hv⟩
    exact ⟨(r.join, v.join, ()), bind_eq_ok_iff.2 ⟨_, hm, rfl⟩, rfl⟩

/-- Of an array both items are read, and then there must be none left. -/
theorem read_options_array_cons (j k : Json) (js : List Json) :
    (Wire.read (.array (j :: k :: js)) : Except DecodeError Options) =
      (Fields.readOptional ReopenPolicy.shape j).bind fun r =>
        (Fields.readOptional VersionPolicy.shape k).bind fun v =>
          if js.length = 0 then
            .ok ⟨r.map ReopenPolicy.ofValue, v.map VersionPolicy.ofValue⟩
          else .error (.invalidLength (js.length + 2) "fewer elements in array") := by
  rw [read_options, Shape.read, Fields.readItems_optional]
  cases Fields.readOptional ReopenPolicy.shape j with
  | error e => rfl
  | ok r =>
    simp only [Except.bind, Fields.readItems_optional]
    cases Fields.readOptional VersionPolicy.shape k with
    | error e => rfl
    | ok v => cases js <;> rfl

/-- An array that ends before the second item is too short. -/
theorem read_options_array_singleton (j : Json) (o : Options) : Wire.read (.array [j]) ≠ .ok o := by
  rw [read_options, Shape.read, Fields.readItems_optional]
  cases Fields.readOptional ReopenPolicy.shape j <;> nofun

theorem read_options_array {js : List Json} {o : Options} :
    Wire.read (.array js) = .ok o ↔ ∃ j k, js = [j, k] ∧
      Json.Says ReopenPolicy.word j o.reopen ∧ Json.Says VersionPolicy.word k o.versionPolicy := by
  constructor
  · intro h
    match js with
    | [] => cases h
    | [j] => exact absurd h (read_options_array_singleton j o)
    | j :: k :: js =>
      rw [read_options_array_cons] at h
      obtain ⟨r, hr, h⟩ := bind_eq_ok_iff.1 h
      obtain ⟨v, hv, h⟩ := bind_eq_ok_iff.1 h
      cases js with
      | nil =>
        cases h
        exact ⟨j, k, rfl, ReopenPolicy.spelling.readOptional.1 ⟨r, hr, rfl⟩,
          VersionPolicy.spelling.readOptional.1 ⟨v, hv, rfl⟩⟩
      | cons l js => cases h
  · obtain ⟨ro, vo⟩ := o
    rintro ⟨j, k, rfl, hj, hk⟩
    obtain ⟨r, hr, rfl⟩ := ReopenPolicy.spelling.readOptional.2 hj
    obtain ⟨v, hv, rfl⟩ := VersionPolicy.spelling.readOptional.2 hk
    rw [read_options_array_cons]
    exact bind_eq_ok_iff.2 ⟨r, hr, bind_eq_ok_iff.2 ⟨v, hv, rfl⟩⟩

theorem read_options_eq_ok_iff {j : Json} {o : Options} :
    Wire.read j = .ok o ↔ Options.Given j o := by
  cases j with
  | object ms =>
    rw [read_options_object]
    constructor
    · rintro ⟨hr, hv⟩
      exact .object hr hv
    · rintro ⟨hr, hv⟩
      exact ⟨hr, hv⟩
  | array js =>
    rw [read_options_array]
    constructor
    · rintro ⟨j, k, rfl, hr, hv⟩
      exact .array hr hv
    · rintro (_ | ⟨hr, hv⟩)
      exact ⟨_, _, rfl, hr, hv⟩
  | _ => exact ⟨nofun, nofun⟩

/-- A value gives no two sets of options. -/
theorem Options.Given.unique {j : Json} {o o' : Options} (h : Given j o) (h' : Given j o') :
    o = o' := by
  have hread := (read_options_eq_ok_iff.2 h).symm.trans (read_options_eq_ok_iff.2 h')
  exact Except.ok.inj hread

end Options

end DocSync
