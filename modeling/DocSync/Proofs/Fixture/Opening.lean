import DocSync.Fixture
import DocSync.Proofs.Store.Step
import Mathlib.Data.List.Forall2

/-! # Opening a fixture

The documents of a fixture are opened one after the other in a store that was empty. This fails only
for a path that makes no identifier or for one that comes twice, and else the store holds them all,
in order.
-/

namespace DocSync

theorem Store.insert_of_find_eq_none {u : Uri} {d : Document} {es : List (Uri × Document)}
    (h : find u es = none) : insert u d es = es ++ [(u, d)] := by
  induction es with
  | nil => rfl
  | cons e es ih =>
    by_cases he : e.1 = u
    · simp [find, he] at h
    · rw [find, if_neg he] at h
      rw [insert, if_neg he, ih h, List.cons_append]

namespace Fixture

/-- The entry under which a document is open. -/
def Opens (d : FixtureDocument) (e : Uri × Document) : Prop :=
  uriOf d.path = .ok e.1 ∧ e.2 = ⟨"hare", 0, d.text⟩

section Runs
variable {ε ε' σ α β : Type} {s s' : σ}

theorem mapError_eq_ok_iff {g : ε → ε'} {x : Except ε α} {a : α} :
    x.mapError g = .ok a ↔ x = .ok a := by
  cases x <;> simp [Except.mapError]

theorem run_bind_eq_ok_iff {x : EStateM ε σ α} {f : α → EStateM ε σ β} {b : β} :
    (x >>= f).run s = .ok b s' ↔ ∃ a s₁, x.run s = .ok a s₁ ∧ (f a).run s₁ = .ok b s' := by
  rw [EStateM.run_bind]
  cases x.run s <;> simp

theorem run_ofExcept_eq_ok_iff {x : Except ε α} {a : α} :
    (ofExcept x : EStateM ε σ α).run s = .ok a s' ↔ x = .ok a ∧ s' = s := by
  cases x with
  | error e =>
    change EStateM.Result.error e s = .ok a s' ↔ _
    simp
  | ok b => simp [ofExcept, eq_comm]

theorem run_adaptExcept_eq_ok_iff {g : ε → ε'} {x : EStateM ε σ α} {a : α} :
    (EStateM.adaptExcept g x).run s = .ok a s' ↔ x.run s = .ok a s' := by
  rw [EStateM.run_adaptExcept]
  cases x.run s <;> simp

end Runs

section Opening
variable {s s' : Store} {d : FixtureDocument} {f : Fixture}

theorem run_openNew_eq_ok_iff {u : Uri} {c : Document} : (Store.openNew u c).run s = .ok () s' ↔
    u ∉ s.uris ∧ s' = { s with entries := s.entries ++ [(u, c)] } := by
  rw [Store.run_openNew, Store.mem_uris_iff]
  cases h : s.get? u with
  | none =>
    have hput : s.put u c = { s with entries := s.entries ++ [(u, c)] } :=
      congrArg (Store.mk s.policy) (Store.insert_of_find_eq_none h)
    simp [hput, eq_comm]
  | some c' => simp

theorem run_openDocument_eq_ok_iff : (openDocument d).run s = .ok () s' ↔
    ∃ e, Opens d e ∧ e.1 ∉ s.uris ∧ s' = { s with entries := s.entries ++ [e] } := by
  simp only [openDocument, run_bind_eq_ok_iff, run_ofExcept_eq_ok_iff, mapError_eq_ok_iff,
    run_adaptExcept_eq_ok_iff, run_openNew_eq_ok_iff]
  constructor
  · rintro ⟨u, _, ⟨hu, rfl⟩, hnot, hs⟩
    exact ⟨_, ⟨hu, rfl⟩, hnot, hs⟩
  · rintro ⟨⟨u, c⟩, ⟨hu, hc⟩, hnot, hs⟩
    obtain rfl : c = ⟨"hare", 0, d.text⟩ := hc
    exact ⟨u, s, ⟨hu, rfl⟩, hnot, hs⟩

/-- Documents can be opened if each of them makes an identifier of its own, which is not open
before. -/
theorem run_forM_openDocument_eq_ok_iff : (f.forM openDocument).run s = .ok () s' ↔
    ∃ es, f.Forall₂ Opens es ∧ (es.map (·.1)).Nodup ∧ (∀ e ∈ es, e.1 ∉ s.uris) ∧
      s' = { s with entries := s.entries ++ es } := by
  induction f generalizing s with
  | nil =>
    change EStateM.Result.ok () s = .ok () s' ↔ _
    simp [eq_comm]
  | cons d f ih =>
    have hcons : ((d :: f).forM openDocument).run s = .ok () s' ↔
        ∃ s₁, (openDocument d).run s = .ok () s₁ ∧ (f.forM openDocument).run s₁ = .ok () s' := by
      refine run_bind_eq_ok_iff.trans ⟨?_, ?_⟩
      · rintro ⟨⟨⟩, s₁, h⟩
        exact ⟨s₁, h⟩
      · rintro ⟨s₁, h⟩
        exact ⟨(), s₁, h⟩
    have huris (e : Uri × Document) :
        Store.uris { s with entries := s.entries ++ [e] } = s.uris ++ [e.1] := by
      simp [Store.uris]
    rw [hcons]
    simp only [run_openDocument_eq_ok_iff, ih]
    constructor
    · rintro ⟨_, ⟨e, hd, he, rfl⟩, es, hes, hnodup, hnew, rfl⟩
      simp only [huris, List.mem_append, List.mem_singleton, not_or] at hnew
      refine ⟨e :: es, .cons hd hes, ?_, ?_, ?_⟩
      · rw [List.map_cons, List.nodup_cons, List.mem_map]
        refine ⟨?_, hnodup⟩
        rintro ⟨e', he', hsame⟩
        exact (hnew e' he').2 hsame
      · rw [List.forall_mem_cons]
        exact ⟨he, fun e' he' => (hnew e' he').1⟩
      · rw [List.append_assoc, List.singleton_append]
    · rintro ⟨_, hes, hnodup, hnew, rfl⟩
      cases hes with
      | @cons _ e _ es hd hes =>
        rw [List.map_cons, List.nodup_cons] at hnodup
        rw [List.forall_mem_cons] at hnew
        refine ⟨_, ⟨e, hd, hnew.1, rfl⟩, es, hes, hnodup.2, ?_, ?_⟩
        · intro e' he'
          simp only [huris, List.mem_append, List.mem_singleton, not_or]
          refine ⟨hnew.2 e' he', ?_⟩
          intro hsame
          exact hnodup.1 (List.mem_map.2 ⟨e', he', hsame⟩)
        · rw [List.append_assoc, List.singleton_append]

theorem openAll_eq_ok_iff : openAll f = .ok s ↔
    ∃ es, f.Forall₂ Opens es ∧ (es.map (·.1)).Nodup ∧ s = ⟨.overwrite, es⟩ := by
  have hrun : openAll f = .ok s ↔ (f.forM openDocument).run (.empty .overwrite) = .ok () s := by
    rw [openAll]
    cases (f.forM openDocument).run (.empty .overwrite) <;> simp
  rw [hrun, run_forM_openDocument_eq_ok_iff]
  simp [Store.uris, Store.empty]

theorem exists_opens_of_mem {es : List (Uri × Document)} (h : f.Forall₂ Opens es) (hd : d ∈ f) :
    ∃ e ∈ es, Opens d e := by
  obtain ⟨i, hi, rfl⟩ := List.getElem_of_mem hd
  have hi' : i < es.length := h.length_eq ▸ hi
  exact ⟨es[i], List.getElem_mem hi', h.get hi hi'⟩

/-- Every document of the fixture is open under its own identifier. -/
theorem exists_get?_of_openAll (h : openAll f = .ok s) (hd : d ∈ f) :
    ∃ u, uriOf d.path = .ok u ∧ s.get? u = some ⟨"hare", 0, d.text⟩ := by
  obtain ⟨es, hes, hnodup, rfl⟩ := openAll_eq_ok_iff.1 h
  obtain ⟨⟨u, c⟩, hmem, hu, rfl⟩ := exists_opens_of_mem hes hd
  have huris : (Store.mk .overwrite es).uris.Nodup := hnodup
  exact ⟨u, hu, (Store.mem_entries_iff huris u _).1 hmem⟩

end Opening

section Paths
variable {f : Fixture} {es : List (Uri × Document)}

theorem exists_forall₂_opens : (∃ es, f.Forall₂ Opens es) ↔
    ∀ d ∈ f, ∃ u, uriOf d.path = .ok u := by
  induction f with
  | nil => simp
  | cons d f ih =>
    rw [List.forall_mem_cons, ← ih]
    constructor
    · rintro ⟨_, h⟩
      cases h with
      | cons hd hf => exact ⟨⟨_, hd.1⟩, _, hf⟩
    · rintro ⟨⟨u, hu⟩, es, hf⟩
      exact ⟨(u, ⟨"hare", 0, d.text⟩) :: es, .cons ⟨hu, rfl⟩ hf⟩

theorem Opens.text_eq {d : FixtureDocument} {e : Uri × Document} (h : Opens d e) :
    e.1.text = "file://" ++ d.path := Uri.text_of_parse h.1

/-- Identifiers are apart where paths are. -/
theorem nodup_uris_iff (h : f.Forall₂ Opens es) :
    (es.map (·.1)).Nodup ↔ (f.map (·.path)).Nodup := by
  have htext : Function.Injective Uri.text := fun _ _ => Uri.ext
  have hscheme : Function.Injective ("file://" ++ · : String → String) := by
    intro p q hpq
    simpa using hpq
  have hsame : (es.map (·.1)).map Uri.text = (f.map (·.path)).map ("file://" ++ ·) := by
    induction h with
    | nil => rfl
    | cons hd _ ih =>
      simp only [List.map_cons, hd.text_eq, ih]
  rw [← List.nodup_map_iff htext, hsame, List.nodup_map_iff hscheme]

/-- All documents of a fixture can be opened if their paths make identifiers and no two are the
same. -/
theorem exists_openAll_eq_ok_iff : (∃ s, openAll f = .ok s) ↔
    (∀ d ∈ f, ∃ u, uriOf d.path = .ok u) ∧ (f.map (·.path)).Nodup := by
  simp only [openAll_eq_ok_iff]
  constructor
  · rintro ⟨_, es, hes, hnodup, -⟩
    exact ⟨exists_forall₂_opens.1 ⟨es, hes⟩, (nodup_uris_iff hes).1 hnodup⟩
  · rintro ⟨hvalid, hnodup⟩
    obtain ⟨es, hes⟩ := exists_forall₂_opens.2 hvalid
    exact ⟨_, es, hes, (nodup_uris_iff hes).2 hnodup, rfl⟩

end Paths

end Fixture
end DocSync
