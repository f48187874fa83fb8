import DocSync.Proofs.Wire.Members

/-! # Optional fields

An optional field is read from the values that stand under its key, of which there may be one, and
the other fields of a record from all other members. In an array it is read from its item.
-/

namespace DocSync

namespace Json

/-- The values of the members with a key. -/
def under (key : String) (ms : Members) : List Json :=
  ms.filterMap fun (k, j) => if k = key then some j else none

@[simp] theorem under_nil (key : String) : under key [] = [] := rfl

@[simp] theorem under_cons_self (key : String) (j : Json) (ms : Members) :
    under key ((key, j) :: ms) = j :: under key ms := by simp [under]

@[simp] theorem under_cons_of_ne {key k : String} (h : k ≠ key) (j : Json) (ms : Members) :
    under key ((k, j) :: ms) = under key ms := by simp [under, h]

theorem under_filter_ne {key k : String} (h : key ≠ k) (ms : Members) :
    under key (ms.filter (·.1 ≠ k)) = under key ms := by
  induction ms with
  | nil => rfl
  | cons m ms ih =>
    obtain ⟨l, j⟩ := m
    by_cases hl : l = k
    · have hkey : l ≠ key := fun heq => h (heq.symm.trans hl)
      rw [List.filter_cons_of_neg (by simp [hl]), ih, under_cons_of_ne hkey]
    · rw [List.filter_cons_of_pos (by simp [hl])]
      by_cases hkey : l = key
      · subst hkey
        rw [under_cons_self, under_cons_self, ih]
      · rw [under_cons_of_ne hkey, under_cons_of_ne hkey, ih]

end Json

namespace Fields
variable {key : String} {shape : Shape} {omission : Omission} {rest : Fields}

/-- What is read for an optional field. -/
def readOptional (shape : Shape) : Json → Except DecodeError (Option shape.Value)
  | .null => .ok none
  | j => (shape.read j).map some

theorem readOptional_of_ne_null {j : Json} (h : j ≠ .null) :
    readOptional shape j = (shape.read j).map some := by
  cases j with
  | null => exact absurd rfl h
  | _ => rfl

/-- What is read for an optional field, unless it has been read before. -/
def readSlot (key : String) (shape : Shape) (slot : Option (Option shape.Value)) (j : Json) :
    Except DecodeError (Option (Option shape.Value)) :=
  if slot.isSome then .error (.duplicateField key) else (readOptional shape j).map some

theorem readMember_optional (k : String) (j : Json) (slot : Option (Option shape.Value))
    (slots : rest.Slots) : (Fields.optional key shape omission rest).readMember k j (slot, slots) =
      if k = key then (readSlot key shape slot j).map (·, slots)
      else (rest.readMember k j slots).map (slot, ·) := by
  conv_lhs => unfold readMember
  unfold readSlot
  split
  · split
    · rfl
    · split
      · rfl
      · next hj =>
        rw [readOptional_of_ne_null hj]
        cases shape.read j <;> rfl
  · rfl

/-- An optional field is read from its own members, and the other fields from all others. -/
theorem readMembers_optional {slot slot' : Option (Option shape.Value)} {slots slots' : rest.Slots}
    {ms : Json.Members} :
    (Fields.optional key shape omission rest).readMembers (slot, slots) ms = .ok (slot', slots') ↔
      (Json.under key ms).foldlM (readSlot key shape) slot = .ok slot' ∧
      rest.readMembers slots (ms.filter (·.1 ≠ key)) = .ok slots' := by
  induction ms generalizing slot slots with
  | nil => simp [pure, Except.pure]
  | cons m ms ih =>
    obtain ⟨k, j⟩ := m
    rw [readMembers_cons, readMember_optional]
    by_cases hk : k = key
    · subst hk
      have hothers : ((k, j) :: ms).filter (·.1 ≠ k) = ms.filter (·.1 ≠ k) := by simp
      rw [if_pos rfl, Json.under_cons_self, hothers, List.foldlM_cons]
      cases readSlot k shape slot j with
      | error e => simp [Except.map, bind, Except.bind]
      | ok read => exact ih
    · have hothers : ((k, j) :: ms).filter (·.1 ≠ key) = (k, j) :: ms.filter (·.1 ≠ key) := by
        simp [hk]
      rw [if_neg hk, Json.under_cons_of_ne hk, hothers, readMembers_cons]
      cases rest.readMember k j slots with
      | error e => simp [Except.map, Except.bind]
      | ok read => exact ih

/-- A key may stand once, and what is read under it is the field. -/
theorem foldlM_readSlot (key : String) {v : Option shape.Value} {js : List Json} :
    (∃ slot, js.foldlM (readSlot key shape) none = .ok slot ∧ slot.join = v) ↔
      js = [] ∧ v = none ∨ ∃ j, js = [j] ∧ readOptional shape j = .ok v := by
  match js with
  | [] => simp [pure, Except.pure, eq_comm]
  | j :: js =>
    rw [List.foldlM_cons, readSlot]
    cases hj : readOptional shape j with
    | error e => simp [Except.map, bind, Except.bind, hj]
    | ok w =>
      cases js with
      | nil => simp [Except.map, bind, Except.bind, pure, Except.pure, hj]
      | cons k js => simp [Except.map, bind, Except.bind, readSlot]

theorem readItems_optional (expected : String) (i : Nat) (j : Json) (js : List Json) :
    (Fields.optional key shape omission rest).readItems expected i (j :: js) =
      (readOptional shape j).bind fun v =>
        (rest.readItems expected (i + 1) js).map fun (w, n) => ((v, w), n) := by
  conv_lhs => unfold readItems
  cases j with
  | null => rfl
  | _ =>
    simp only [readOptional]
    cases shape.read _ <;> rfl

end Fields

end DocSync
