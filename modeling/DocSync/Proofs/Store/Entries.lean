import DocSync.Store.Basic
import Mathlib.Data.List.Nodup
import Mathlib.Tactic.Common

/-! # The entries of a store

All that can be seen of a store is seen through `Store.get?`, and `Store.set` is how it changes: one
document is put in, or taken out. No identifier ever stands twice among the entries of a store that
was empty, so two such stores with the same documents have the same entries, in some order.
-/

namespace DocSync.Store

section Observers
variable {s : Store} {u : Uri}

theorem any_eq_isSome_find (u : Uri) (es : List (Uri × Document)) :
    es.any (·.1 = u) = (find u es).isSome := by
  induction es with
  | nil => rfl
  | cons e es ih =>
    rw [List.any_cons, find, ih]
    by_cases he : e.1 = u <;> simp [he]

theorem contains_eq (s : Store) (u : Uri) : s.contains u = (s.get? u).isSome :=
  any_eq_isSome_find u s.entries

theorem mem_uris_iff (s : Store) (u : Uri) : u ∈ s.uris ↔ (s.get? u).isSome = true := by
  rw [← contains_eq, contains, uris, List.any_eq_true, List.mem_map]
  simp only [decide_eq_true_eq]

theorem snapshot_of_none (h : s.get? u = none) : s.snapshot u = .error (.notOpen u) := by
  rw [snapshot, h]

theorem snapshot_of_some {d : Document} (h : s.get? u = some d) :
    s.snapshot u = .ok ⟨u, d.languageId, d.version, d.text⟩ := by
  rw [snapshot, h]

end Observers

section Set
variable (s : Store) (u : Uri)

/-- The store with a document, or without one, under an identifier. -/
def set (d? : Option Document) : Store := d?.elim (s.erase u) (s.put u)

@[simp] theorem policy_set (d? : Option Document) : (s.set u d?).policy = s.policy := by
  cases d? <;> rfl

@[simp] theorem get?_set (d? : Option Document) (v : Uri) :
    (s.set u d?).get? v = if u = v then d? else s.get? v := by
  cases d? with
  | none => exact get?_erase s u v
  | some d => exact get?_put s u v d

theorem insert_of_find {u : Uri} {d : Document} {es : List (Uri × Document)}
    (h : find u es = some d) : insert u d es = es := by
  induction es with
  | nil => cases h
  | cons e es ih =>
    obtain ⟨v, c⟩ := e
    by_cases hv : v = u
    · simp only [find, hv, if_true, Option.some.injEq] at h
      simp only [insert, hv, if_true, h]
    · simp only [find, hv, if_false] at h
      simp only [insert, hv, if_false, ih h]

theorem filter_ne_of_find {u : Uri} {es : List (Uri × Document)} (h : find u es = none) :
    es.filter (·.1 ≠ u) = es := by
  have hany := any_eq_isSome_find u es
  rw [h, Option.isSome_none, List.any_eq_false] at hany
  refine List.filter_eq_self.2 fun e he => ?_
  simpa using hany e he

variable {s u}

theorem put_of_get? {d : Document} (h : s.get? u = some d) : s.put u d = s :=
  congrArg (Store.mk s.policy) (insert_of_find h)

theorem erase_of_get? (h : s.get? u = none) : s.erase u = s :=
  congrArg (Store.mk s.policy) (filter_ne_of_find h)

/-- Nothing changes where nothing new is set. -/
theorem set_get? : s.set u (s.get? u) = s := by
  cases h : s.get? u with
  | none => exact erase_of_get? h
  | some d => exact put_of_get? h

end Set

section Nodup
variable {s t : Store}

theorem uris_insert (u : Uri) (d : Document) (es : List (Uri × Document)) :
    (insert u d es).map (·.1) =
      if u ∈ es.map (·.1) then es.map (·.1) else es.map (·.1) ++ [u] := by
  induction es with
  | nil => rfl
  | cons e es ih =>
    by_cases he : e.1 = u
    · simp [insert, he]
    · have hu : u ≠ e.1 := Ne.symm he
      simp only [insert, he, if_false, List.map_cons, ih, List.mem_cons, hu, false_or]
      split <;> rfl

theorem nodup_set (h : s.uris.Nodup) (u : Uri) (d? : Option Document) :
    (s.set u d?).uris.Nodup := by
  cases d? with
  | none => exact h.sublist (List.filter_sublist.map _)
  | some d =>
    change ((insert u d s.entries).map (·.1)).Nodup
    rw [uris_insert]
    split
    · exact h
    · next hu =>
      rw [← List.concat_eq_append]
      exact h.concat hu

theorem mem_entries_iff (h : s.uris.Nodup) (u : Uri) (d : Document) :
    (u, d) ∈ s.entries ↔ s.get? u = some d := by
  obtain ⟨policy, es⟩ := s
  simp only [uris, get?] at h ⊢
  induction es with
  | nil => simp [find]
  | cons e es ih =>
    obtain ⟨v, c⟩ := e
    rw [List.map_cons, List.nodup_cons] at h
    rw [List.mem_cons, ih h.2, find]
    by_cases hv : v = u
    · subst hv
      have hnone : find v es ≠ some d := fun hd =>
        h.1 (List.mem_map.2 ⟨(v, d), (ih h.2).2 hd, rfl⟩)
      simp [hnone, eq_comm]
    · simp [hv, Ne.symm hv]

/-- Stores with the same documents have the same entries, in some order. -/
theorem perm_of_get? (hs : s.uris.Nodup) (ht : t.uris.Nodup) (h : ∀ u, s.get? u = t.get? u) :
    s.entries.Perm t.entries := by
  refine (List.perm_ext_iff_of_nodup hs.of_map ht.of_map).2 ?_
  rintro ⟨u, d⟩
  rw [mem_entries_iff hs, mem_entries_iff ht, h]

end Nodup

end DocSync.Store
