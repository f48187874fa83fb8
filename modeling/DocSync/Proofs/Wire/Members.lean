import DocSync.Wire.Shape.Reader
import DocSync.Wire.Shape.Writer
import Mathlib.Data.List.Nodup
import Mathlib.Data.List.Perm.Basic
import Mathlib.Tactic.Common

/-! # The members of a record

The members that are written for a record have distinct keys and are put in their order. They are
read back in whatever order they stand, and other members may stand among them: `slotsOf` says what
has been read once the members under some keys have been, one member adds its key, and a run of
members adds all of theirs.
-/

namespace DocSync

section Outcomes
variable {ε α β : Type} {x : Except ε α} {b : β}

theorem bind_eq_ok_iff {f : α → Except ε β} : x.bind f = .ok b ↔ ∃ a, x = .ok a ∧ f a = .ok b := by
  cases x <;> simp [Except.bind]

theorem map_eq_ok_iff {f : α → β} : x.map f = .ok b ↔ ∃ a, x = .ok a ∧ f a = b := by
  cases x <;> simp [Except.map]

end Outcomes

namespace Json
variable {k : String} {v : Json} {ms done : Members}

theorem perm_insert (h : k ∉ ms.map (·.1)) : (insert k v ms).Perm ((k, v) :: ms) := by
  induction ms with
  | nil => rfl
  | cons m ms ih =>
    simp only [List.map_cons, List.mem_cons, not_or] at h
    rw [insert, if_neg h.1]
    split
    · rfl
    · exact ((ih h.2).cons m).trans (.swap _ _ _)

theorem perm_foldl_insert (h : ((ms ++ done).map (·.1)).Nodup) :
    (ms.foldl (fun done (k, v) => insert k v done) done).Perm (ms ++ done) := by
  induction ms generalizing done with
  | nil => rfl
  | cons m ms ih =>
    have hperm : (insert m.1 m.2 done).Perm (m :: done) := by
      apply perm_insert
      simp only [List.cons_append, List.map_cons, List.nodup_cons, List.map_append,
        List.mem_append, not_or] at h
      exact h.1.2
    have hmiddle : (ms ++ insert m.1 m.2 done).Perm (m :: ms ++ done) :=
      (hperm.append_left ms).trans List.perm_middle
    exact (ih ((hmiddle.map _).nodup_iff.2 h)).trans hmiddle

/-- Members with distinct keys are only put in order. -/
theorem exists_ofMembers (h : (ms.map (·.1)).Nodup) :
    ∃ ns, ofMembers ms = .object ns ∧ ns.Perm ms := by
  rw [← List.append_nil ms] at h
  have hperm := perm_foldl_insert h
  rw [List.append_nil] at hperm
  exact ⟨_, rfl, hperm⟩

end Json

namespace Fields

@[simp] def keys : Fields → List String
  | .nil => []
  | .required key _ rest => key :: rest.keys
  | .optional key _ _ rest => key :: rest.keys

/-- The members of an object, read one after the other. -/
def readMembers (fs : Fields) (slots : fs.Slots) (ms : Json.Members) :
    Except DecodeError fs.Slots :=
  ms.foldlM (fun slots (k, j) => fs.readMember k j slots) slots

@[simp] theorem readMembers_nil (fs : Fields) (slots : fs.Slots) :
    fs.readMembers slots [] = .ok slots := rfl

theorem readMembers_cons (fs : Fields) (slots : fs.Slots) (k : String) (j : Json)
    (ms : Json.Members) : fs.readMembers slots ((k, j) :: ms) =
      (fs.readMember k j slots).bind (fs.readMembers · ms) := rfl

/-- The fields that have been read once the members under some keys have been. -/
def slotsOf : (fs : Fields) → fs.Value → List String → fs.Slots
  | .nil, (), _ => ()
  | .required key _ rest, (v, w), ks => (if key ∈ ks then some v else none, rest.slotsOf w ks)
  | .optional key _ _ rest, (v, w), ks => (if key ∈ ks then some v else none, rest.slotsOf w ks)

theorem slotsOf_nil : (fs : Fields) → (v : fs.Value) → fs.slotsOf v [] = fs.empty
  | .nil, () => rfl
  | .required _ _ rest, (_, w) => by simp [slotsOf, empty, slotsOf_nil rest w]
  | .optional _ _ _ rest, (_, w) => by simp [slotsOf, empty, slotsOf_nil rest w]

/-- A key of no field changes nothing. -/
theorem slotsOf_cons {k : String} {ks : List String} : (fs : Fields) → (v : fs.Value) →
    k ∉ fs.keys → fs.slotsOf v (k :: ks) = fs.slotsOf v ks
  | .nil, (), _ => rfl
  | .required key _ rest, (_, w), h => by
    simp only [keys, List.mem_cons, not_or] at h
    simp [slotsOf, Ne.symm h.1, slotsOf_cons rest w h.2]
  | .optional key _ _ rest, (_, w), h => by
    simp only [keys, List.mem_cons, not_or] at h
    simp [slotsOf, Ne.symm h.1, slotsOf_cons rest w h.2]

theorem keys_write : (fs : Fields) → (v : fs.Value) →
    ((fs.write v).map (·.1)).Sublist fs.keys
  | .nil, () => .slnil
  | .required _ _ rest, (_, w) => (keys_write rest w).cons_cons _
  | .optional _ _ omission rest, (v, w) => by
    cases v with
    | some v => exact (keys_write rest w).cons_cons _
    | none =>
      cases omission with
      | asNull => exact (keys_write rest w).cons_cons _
      | dropped => exact (keys_write rest w).cons _
      | trailing => exact (keys_write rest w).cons _

theorem mem_keys_of_mem_write {fs : Fields} {v : fs.Value} {m : String × Json}
    (h : m ∈ fs.write v) : m.1 ∈ fs.keys :=
  (keys_write fs v).subset (List.mem_map_of_mem h)

/-- Nothing is missing once all members that are written have been read. -/
theorem finish_slotsOf {ks : List String} : (fs : Fields) → (v : fs.Value) →
    (∀ m ∈ fs.write v, m.1 ∈ ks) → fs.finish (fs.slotsOf v ks) = .ok v
  | .nil, (), _ => rfl
  | .required key shape rest, (v, w), h => by
    have hrest := finish_slotsOf rest w fun m hm => h m (List.mem_cons_of_mem _ hm)
    have hkey : key ∈ ks := h (key, shape.write v) List.mem_cons_self
    rw [slotsOf, if_pos hkey, finish, hrest]
    rfl
  | .optional key shape omission rest, (v, w), h => by
    have hrest : rest.finish (rest.slotsOf w ks) = .ok w := by
      apply finish_slotsOf rest w
      intro m hm
      apply h m
      cases v <;> cases omission <;> simp [write, hm]
    have hslot : (if key ∈ ks then some v else none).join = v := by
      cases v with
      | none => split <;> rfl
      | some v => rw [if_pos (h (key, shape.write v) (by simp [write]))]; rfl
    rw [slotsOf, finish, hrest, hslot]
    rfl

theorem readMember_of_notMem {k : String} {j : Json} : (fs : Fields) → (slots : fs.Slots) →
    k ∉ fs.keys → fs.readMember k j slots = .ok slots
  | .nil, (), _ => rfl
  | .required key _ rest, (slot, slots), h => by
    simp only [keys, List.mem_cons, not_or] at h
    rw [readMember, if_neg h.1, readMember_of_notMem rest slots h.2]
    rfl
  | .optional key _ _ rest, (slot, slots), h => by
    simp only [keys, List.mem_cons, not_or] at h
    unfold readMember
    rw [if_neg h.1, readMember_of_notMem rest slots h.2]
    rfl

/-- Every member is read into its field, whichever ones have been read before it. -/
def ReadsMembers (fs : Fields) : Prop :=
  ∀ (v : fs.Value) (ks : List String), ∀ m ∈ fs.write v, m.1 ∉ ks →
    fs.readMember m.1 m.2 (fs.slotsOf v ks) = .ok (fs.slotsOf v (m.1 :: ks))

/-- The members of a record are read in any order, with any other members among them. -/
theorem readMembers_slotsOf {fs : Fields} (hreads : fs.ReadsMembers) {v : fs.Value}
    {ms : Json.Members} (hms : (ms.map (·.1)).Nodup)
    (hmem : ∀ m ∈ ms, m ∈ fs.write v ∨ m.1 ∉ fs.keys) (ks : List String)
    (hks : ∀ m ∈ ms, m.1 ∉ ks) :
    fs.readMembers (fs.slotsOf v ks) ms = .ok (fs.slotsOf v ((ms.map (·.1)).reverse ++ ks)) := by
  -- By induction on the members; `ks` takes in the key of each one that is read.
  induction ms generalizing ks with
  | nil => rfl
  | cons m ms ih =>
    obtain ⟨k, j⟩ := m
    have hstep : fs.readMember k j (fs.slotsOf v ks) = .ok (fs.slotsOf v (k :: ks)) := by
      rcases hmem (k, j) List.mem_cons_self with hm | hm
      · exact hreads v ks (k, j) hm (hks (k, j) List.mem_cons_self)
      · rw [readMember_of_notMem fs _ hm, slotsOf_cons fs v hm]
    rw [List.map_cons, List.nodup_cons] at hms
    have hrest : ∀ n ∈ ms, n.1 ∉ k :: ks := by
      intro n hn hmem
      rcases List.mem_cons.1 hmem with heq | hmem
      · exact hms.1 (List.mem_map.2 ⟨n, hn, heq⟩)
      · exact hks n (List.mem_cons_of_mem _ hn) hmem
    rw [readMembers_cons, hstep, List.map_cons, List.reverse_cons, List.append_assoc]
    exact ih hms.2 (fun n hn => hmem n (List.mem_cons_of_mem _ hn)) (k :: ks) hrest

/-- A record is read back from any object that has its members, and others under other keys. -/
theorem exists_readMembers {fs : Fields} (hreads : fs.ReadsMembers) {v : fs.Value}
    {ms : Json.Members} (hms : (ms.map (·.1)).Nodup)
    (hmem : ∀ m ∈ ms, m ∈ fs.write v ∨ m.1 ∉ fs.keys) (hall : ∀ m ∈ fs.write v, m ∈ ms) :
    ∃ slots, fs.readMembers fs.empty ms = .ok slots ∧ fs.finish slots = .ok v := by
  have hrun := readMembers_slotsOf hreads hms hmem [] fun m _ => List.not_mem_nil
  rw [slotsOf_nil] at hrun
  refine ⟨_, hrun, finish_slotsOf fs v fun m hm => ?_⟩
  rw [List.append_nil, List.mem_reverse]
  exact List.mem_map_of_mem (hall m hm)

/-- A record is read from an object by its members. -/
theorem read_record_object (name : String) (fs : Fields) (ms : Json.Members) :
    (Shape.record name fs).read (.object ms) = (fs.readMembers fs.empty ms).bind fs.finish := by
  rw [Shape.read]
  rfl

end Fields

section Members
variable {key : String} {shape : Shape} {rest : Fields}

theorem Fields.ReadsMembers.required (hkey : key ∉ rest.keys)
    (hshape : ∀ v, shape.read (shape.write v) = .ok v) (hrest : rest.ReadsMembers) :
    (Fields.required key shape rest).ReadsMembers := by
  rintro ⟨v, w⟩ ks m hm hk
  rw [Fields.write] at hm
  rcases List.mem_cons.1 hm with rfl | hm
  · simp only [Fields.slotsOf, if_neg hk, if_pos List.mem_cons_self, Fields.slotsOf_cons rest w hkey,
      Fields.readMember, if_true, Option.isSome_none, Bool.false_eq_true, if_false, hshape]
    rfl
  · have hne : m.1 ≠ key := fun heq => hkey (heq ▸ Fields.mem_keys_of_mem_write hm)
    simp only [Fields.slotsOf, Fields.readMember, if_neg hne, hrest w ks m hm hk, List.mem_cons,
      Ne.symm hne, false_or]
    rfl

theorem Fields.ReadsMembers.optional {omission : Omission} (hkey : key ∉ rest.keys)
    (hshape : ∀ v, shape.read (shape.write v) = .ok v) (hnull : ∀ v, shape.write v ≠ .null)
    (hrest : rest.ReadsMembers) : (Fields.optional key shape omission rest).ReadsMembers := by
  rintro ⟨v, w⟩ ks m hm hk
  -- What is read is the member of this field, if one was written, or else one of the other fields.
  have hcases : (m = (key, (v.map shape.write).getD .null)) ∨ m ∈ rest.write w := by
    cases v <;> cases omission <;> simp_all [Fields.write]
  rcases hcases with rfl | hm
  · unfold Fields.readMember
    simp only [Fields.slotsOf, if_neg hk, if_pos List.mem_cons_self, Fields.slotsOf_cons rest w hkey,
      if_true, Option.isSome_none, Bool.false_eq_true, if_false]
    cases v with
    | none => rfl
    | some v =>
      rw [Option.map_some, Option.getD_some]
      split
      · next hv => exact absurd hv (hnull v)
      · rw [hshape]
        rfl
  · have hne : m.1 ≠ key := fun heq => hkey (heq ▸ Fields.mem_keys_of_mem_write hm)
    unfold Fields.readMember
    simp only [Fields.slotsOf, if_neg hne, hrest w ks m hm hk, List.mem_cons, Ne.symm hne, false_or]
    rfl

end Members

end DocSync
