import DocSync.Config
import DocSync.Proofs.Wire.Members
import DocSync.Protocol.Document

/-! # What is written is read back

A shape is faithful if no two of its words and no two of its keys are the same, and no value of an
optional field is written as `null`. Every value of a faithful shape is read back from its JSON
form, and the shapes of all that is said about documents are faithful.
-/

namespace DocSync

mutual
/-- Every value of the shape can be told from its JSON form. -/
@[simp] def Shape.Faithful : Shape → Prop
  | .any => False
  | .unit | .bool | .int32 | .uint32 | .string | .uri => True
  | .choice variants => variants.Nodup
  | .list item => item.Faithful
  | .record _ fs => fs.keys.Nodup ∧ fs.Faithful
  | .extended _ fs extra => (fs.keys ++ extra.keys).Nodup ∧ fs.Faithful ∧ extra.Faithful
  | .either _ first second => first.Faithful ∧ second.Faithful ∧
    ∀ v, ∃ e, first.read (second.write v) = .error e

@[simp] def Fields.Faithful : Fields → Prop
  | .nil => True
  | .required _ shape rest => shape.Faithful ∧ rest.Faithful
  | .optional _ shape _ rest => shape.Faithful ∧ (∀ v, shape.write v ≠ .null) ∧ rest.Faithful
end

section ReadWrite

theorem readVariant_eq_ok_iff {variants : List String} (h : variants.Nodup) {s : String}
    {i : Fin variants.length} : readVariant variants s = .ok i ↔ variants[i] = s := by
  have hfound : variants.finIdxOf? s = some i ↔ variants[i] = s := by
    rw [List.finIdxOf?_eq_some_iff]
    refine ⟨And.left, fun hi => ⟨hi, fun k hk heq => ?_⟩⟩
    exact absurd (h.getElem_inj_iff.1 (heq.trans hi.symm)) (Nat.ne_of_lt hk)
  rw [← hfound, readVariant]
  cases variants.finIdxOf? s <;> simp

theorem mapM_map_write {s : Shape} (h : ∀ v, s.read (s.write v) = .ok v) (vs : List s.Value) :
    (vs.map s.write).mapM s.read = .ok vs := by
  induction vs with
  | nil => rfl
  | cons v vs ih =>
    rw [List.map_cons, List.mapM_cons, h, ih]
    rfl

theorem readInt_of_le {least greatest n : Int} (h : least ≤ n) (h' : n ≤ greatest) (name : String) :
    readInt least greatest name (.int n) = .ok n := by
  rw [readInt, if_pos ⟨h, h'⟩]

theorem read_write_int32 (n : Int32) : Shape.int32.read (Shape.int32.write n) = .ok n := by
  have hle := n.le_toInt
  have hle' := n.toInt_lt
  rw [Shape.write, Shape.read, readInt_of_le (by omega) (by omega), Except.map, Int32.ofInt_toInt]

theorem read_write_uint32 (n : UInt32) : Shape.uint32.read (Shape.uint32.write n) = .ok n := by
  have hlt := n.toNat_lt
  rw [Shape.write, Shape.read, readInt_of_le (by omega) (by omega), Except.map, Int.toNat_natCast,
    UInt32.ofNat_toNat]

theorem read_write_record {name : String} {fs : Fields} (hkeys : fs.keys.Nodup)
    (h : fs.ReadsMembers) (v : fs.Value) :
    (Shape.record name fs).read ((Shape.record name fs).write v) = .ok v := by
  have hnodup := (Fields.keys_write fs v).nodup hkeys
  obtain ⟨ns, hns, hperm⟩ := Json.exists_ofMembers hnodup
  obtain ⟨slots, hread, hfinish⟩ := Fields.exists_readMembers h
    ((hperm.map _).nodup_iff.2 hnodup) (fun m hm => .inl (hperm.mem_iff.1 hm))
    fun m hm => hperm.mem_iff.2 hm
  rw [Shape.write, hns, Fields.read_record_object, hread]
  exact hfinish

/-- The fields of one part are other members to the other part. -/
theorem read_write_extended {name : String} {fs extra : Fields}
    (hkeys : (fs.keys ++ extra.keys).Nodup) (h : fs.ReadsMembers) (h' : extra.ReadsMembers)
    (v : fs.Value) (w : extra.Value) :
    (Shape.extended name fs extra).read ((Shape.extended name fs extra).write (v, w)) =
      .ok (v, w) := by
  have hsublist := (Fields.keys_write fs v).append (Fields.keys_write extra w)
  rw [← List.map_append] at hsublist
  have hnodup := hsublist.nodup hkeys
  have hdisjoint := List.disjoint_of_nodup_append hkeys
  obtain ⟨ns, hns, hperm⟩ := Json.exists_ofMembers hnodup
  have hmem (m : String × Json) : m ∈ ns ↔ m ∈ fs.write v ∨ m ∈ extra.write w :=
    hperm.mem_iff.trans List.mem_append
  have hns' := (hperm.map _).nodup_iff.2 hnodup
  obtain ⟨slots, hread, hfinish⟩ := Fields.exists_readMembers h hns'
    (fun m hm => ((hmem m).1 hm).imp_right fun hm hk =>
      hdisjoint hk (Fields.mem_keys_of_mem_write hm))
    fun m hm => (hmem m).2 (.inl hm)
  obtain ⟨slots', hread', hfinish'⟩ := Fields.exists_readMembers h' hns'
    (fun m hm => ((hmem m).1 hm).symm.imp_right fun hm hk =>
      hdisjoint (Fields.mem_keys_of_mem_write hm) hk)
    fun m hm => (hmem m).2 (.inr hm)
  rw [Fields.readMembers] at hread hread'
  simp only [Shape.write, hns, Shape.read, hread, hread', bind, Except.bind, hfinish, hfinish']
  rfl

theorem read_write_inl {name : Option String} {first second : Shape} {v : first.Value}
    (h : first.read (first.write v) = .ok v) :
    (Shape.either name first second).read ((Shape.either name first second).write (.inl v)) =
      .ok (.inl v) := by
  rw [Shape.write]
  unfold Shape.read
  rw [h]

theorem read_write_inr {name : Option String} {first second : Shape} {v : second.Value}
    {e : DecodeError} (he : first.read (second.write v) = .error e)
    (h : second.read (second.write v) = .ok v) :
    (Shape.either name first second).read ((Shape.either name first second).write (.inr v)) =
      .ok (.inr v) := by
  rw [Shape.write]
  unfold Shape.read
  rw [he, h]

mutual
/-- Every value of a faithful shape is read back from its JSON form. -/
theorem Shape.read_write : (s : Shape) → s.Faithful → (v : s.Value) → s.read (s.write v) = .ok v
  | .unit, _, () => rfl
  | .bool, _, _ => rfl
  | .int32, _, n => read_write_int32 n
  | .uint32, _, n => read_write_uint32 n
  | .string, _, _ => rfl
  | .uri, _, u => by rw [Shape.write, Shape.read, readUri, Uri.parse_text]
  | .choice _, h, _ => (readVariant_eq_ok_iff h).2 rfl
  | .list item, h, vs => mapM_map_write (Shape.read_write item h) vs
  | .record _ fs, h, v => read_write_record h.1 (Fields.readsMembers fs h.1 h.2) v
  | .extended _ fs extra, h, (v, w) =>
    read_write_extended h.1 (Fields.readsMembers fs h.1.of_append_left h.2.1)
      (Fields.readsMembers extra h.1.of_append_right h.2.2) v w
  | .either _ first _, h, .inl v => read_write_inl (Shape.read_write first h.1 v)
  | .either _ _ second, h, .inr v =>
    (h.2.2 v).elim fun _ he => read_write_inr he (Shape.read_write second h.2.1 v)

theorem Fields.readsMembers : (fs : Fields) → fs.keys.Nodup → fs.Faithful → fs.ReadsMembers
  | .nil, _, _ => by
    rintro ⟨⟩ ks m hm
    cases hm
  | .required _ shape rest, hkeys, h =>
    .required (List.nodup_cons.1 hkeys).1 (Shape.read_write shape h.1)
      (Fields.readsMembers rest (List.nodup_cons.1 hkeys).2 h.2)
  | .optional _ shape _ rest, hkeys, h =>
    .optional (List.nodup_cons.1 hkeys).1 (Shape.read_write shape h.1) h.2.1
      (Fields.readsMembers rest (List.nodup_cons.1 hkeys).2 h.2.2)
end

end ReadWrite

namespace Wire
variable {α : Type} [Wire α]

/-- A value, read and written again. -/
def rewrite (α : Type) [Wire α] (what : String) (j : Json) : Except Malformed Json :=
  (decode what j : Except Malformed α).map write

/-- What is written is read back, and what was read is read again from what is written for it; so
writing it once more changes nothing. -/
structure RoundTrips (α : Type) [Wire α] : Prop where
  decode_write : ∀ (what : String) (x : α), decode what (write x) = .ok x
  /-- A case of `decode_write`, kept for those who start from JSON that others have written. -/
  decode_again : ∀ (what : String) (j : Json) (x : α), decode what j = .ok x →
    decode what (write x) = .ok x
  rewrite_again : ∀ (what : String) (j k : Json), rewrite α what j = .ok k →
    rewrite α what k = .ok k

theorem roundTrips_of_faithful (h : (shape α).Faithful) : RoundTrips α := by
  have hwrite (what : String) (x : α) : decode what (write x) = .ok x := by
    rw [decode, read, write, Shape.read_write _ h, Except.map, ofValue_toValue]
  refine ⟨hwrite, fun what j x _ => hwrite what x, fun what j k hj => ?_⟩
  rw [rewrite] at hj
  cases hx : (decode what j : Except Malformed α) with
  | error e =>
    rw [hx] at hj
    cases hj
  | ok x =>
    rw [hx] at hj
    cases hj
    rw [rewrite, hwrite, Except.map]

end Wire

section Protocol

@[simp] theorem write_choice_ne_null (variants : List String) (i : Fin variants.length) :
    (Shape.choice variants).write i ≠ .null := by simp [Shape.write]

@[simp] theorem write_uint32_ne_null (n : UInt32) : Shape.uint32.write n ≠ .null := by
  simp [Shape.write]

@[simp] theorem write_record_ne_null (name : String) (fs : Fields) (v : fs.Value) :
    (Shape.record name fs).write v ≠ .null := by simp [Shape.write, Json.ofMembers]

theorem faithful_reopenPolicy : ReopenPolicy.shape.Faithful := by simp [ReopenPolicy.shape]

theorem faithful_versionPolicy : VersionPolicy.shape.Faithful := by simp [VersionPolicy.shape]

theorem faithful_options : (Wire.shape Options).Faithful := by
  simp [Wire.shape, ReopenPolicy.shape, VersionPolicy.shape]

theorem faithful_position : Position.shape.Faithful := by simp [Position.shape]

theorem faithful_range : Range.shape.Faithful := by simp [Range.shape, faithful_position]

theorem faithful_contentChange : ContentChange.shape.Faithful := by
  simp [ContentChange.shape, Range.shape, faithful_position]

theorem faithful_documentId : DocumentId.shape.Faithful := by simp [DocumentId.shape]

theorem faithful_documentText : (Wire.shape DocumentText).Faithful := by simp [Wire.shape]

theorem faithful_didOpen : (Wire.shape DidOpen).Faithful := by
  simp [Wire.shape, DocumentItem.shape]

theorem faithful_didChange : (Wire.shape DidChange).Faithful := by
  simp [Wire.shape, VersionedDocument.shape, faithful_contentChange]

theorem faithful_didClose : (Wire.shape DidClose).Faithful := by
  simp [Wire.shape, faithful_documentId]

/-- **What is written is read back**, for everything that a client and the server tell each other
about documents, and for the options of the server. -/
theorem documents_roundTrip :
    Wire.RoundTrips DocumentText ∧ Wire.RoundTrips DocumentId ∧ Wire.RoundTrips Options ∧
    Wire.RoundTrips ReopenPolicy ∧ Wire.RoundTrips VersionPolicy ∧ Wire.RoundTrips Position ∧
    Wire.RoundTrips Range ∧ Wire.RoundTrips ContentChange ∧ Wire.RoundTrips DidOpen ∧
    Wire.RoundTrips DidChange ∧ Wire.RoundTrips DidClose ∧ Wire.RoundTrips Unit := by
  refine ⟨?_, ?_, ?_, ?_, ?_, ?_, ?_, ?_, ?_, ?_, ?_, ?_⟩ <;> apply Wire.roundTrips_of_faithful
  · exact faithful_documentText
  · exact faithful_documentId
  · exact faithful_options
  · exact faithful_reopenPolicy
  · exact faithful_versionPolicy
  · exact faithful_position
  · exact faithful_range
  · exact faithful_contentChange
  · exact faithful_didOpen
  · exact faithful_didChange
  · exact faithful_didClose
  · exact trivial

end Protocol

end DocSync
