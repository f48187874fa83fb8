import DocSync.Proofs.Config.Given
import Mathlib.Data.List.Induction

/-! # The last valid word

After a list of values each setting is the one that the last valid value gave which gave one for it.
The two settings have nothing to do with each other, and a value that is not valid counts for
neither.
-/

namespace DocSync

/-- The last thing that the values of a list say, or the one before all of them if none says any. -/
inductive LastSaid {α : Type} (Says : Json → α → Prop) (initial : α) : List Json → α → Prop
  | unsaid {js : List Json} (h : ∀ j ∈ js, ∀ x, ¬ Says j x) : LastSaid Says initial js initial
  | said {before after : List Json} {j : Json} {x : α} (h : Says j x)
    (later : ∀ k ∈ after, ∀ y, ¬ Says k y) : LastSaid Says initial (before ++ j :: after) x

section LastSaid
variable {α : Type} {Says : Json → α → Prop} {initial x : α} {js : List Json} {j : Json}

theorem LastSaid.concat_of_said (js : List Json) (h : Says j x) :
    LastSaid Says initial (js ++ [j]) x := .said h nofun

theorem LastSaid.concat_of_unsaid (h : LastSaid Says initial js x) (hj : ∀ y, ¬ Says j y) :
    LastSaid Says initial (js ++ [j]) x := by
  cases h with
  | unsaid h =>
    refine .unsaid fun k hk => ?_
    rcases List.mem_append.1 hk with hk | hk
    · exact h k hk
    · rw [List.mem_singleton.1 hk]
      exact hj
  | said h later =>
    rw [List.append_assoc, List.cons_append]
    refine .said h fun k hk => ?_
    rcases List.mem_append.1 hk with hk | hk
    · exact later k hk
    · rw [List.mem_singleton.1 hk]
      exact hj

end LastSaid

namespace Config
variable {c : Config} {j : Json} {o : Options}

/-- The settings with those in the place of which options stand replaced. -/
def apply (c : Config) (o : Options) : Config :=
  ⟨o.reopen.getD c.reopen, o.versionPolicy.getD c.versionPolicy⟩

theorem run_update_of_given (h : Options.Given j o) : (update j).run c = .ok () (c.apply o) := by
  obtain ⟨reopen, versionPolicy⟩ := o
  rw [update, read_options_eq_ok_iff.2 h]
  cases reopen <;> cases versionPolicy <;> rfl

theorem run_update_of_not_given (h : ∀ o, ¬ Options.Given j o) : (update j).run c = .ok () c := by
  rw [update]
  cases hj : (Wire.read j : Except DecodeError Options) with
  | error e => rfl
  | ok o => exact absurd (read_options_eq_ok_iff.1 hj) (h o)

/-- No value is refused. -/
theorem exists_run_update (c : Config) (j : Json) : ∃ c', (update j).run c = .ok () c' := by
  by_cases hj : ∃ o, Options.Given j o
  · obtain ⟨o, ho⟩ := hj
    exact ⟨_, run_update_of_given ho⟩
  · exact ⟨c, run_update_of_not_given fun o ho => hj ⟨o, ho⟩⟩

/-- A valid value that says something about reopening. -/
def SaysReopen (j : Json) (p : ReopenPolicy) : Prop := ∃ o, Options.Given j o ∧ o.reopen = some p

/-- A valid value that says something about versions. -/
def SaysVersionPolicy (j : Json) (p : VersionPolicy) : Prop :=
  ∃ o, Options.Given j o ∧ o.versionPolicy = some p

/-- One more value changes a setting exactly if it says something about it. -/
theorem lastSaid_update {α : Type} {Says : Json → α → Prop} {initial : α} {js : List Json}
    (get : Config → α) {get? : Options → Option α} {c' : Config}
    (hsaid : ∀ j x, Says j x ↔ ∃ o, Options.Given j o ∧ get? o = some x)
    (hget : ∀ c o, get (c.apply o) = (get? o).getD (get c))
    (h : LastSaid Says initial js (get c)) (hj : (update j).run c = .ok () c') :
    LastSaid Says initial (js ++ [j]) (get c') := by
  by_cases hgiven : ∃ o, Options.Given j o
  · obtain ⟨o, ho⟩ := hgiven
    rw [run_update_of_given ho] at hj
    cases hj
    rw [hget]
    cases hx : get? o with
    | some x => exact .concat_of_said js ((hsaid j x).2 ⟨o, ho, hx⟩)
    | none =>
      refine h.concat_of_unsaid fun y hy => ?_
      obtain ⟨o', ho', hy⟩ := (hsaid j y).1 hy
      rw [ho'.unique ho, hx] at hy
      cases hy
  · have hnone (o : Options) (ho : Options.Given j o) : False := hgiven ⟨o, ho⟩
    rw [run_update_of_not_given hnone] at hj
    cases hj
    refine h.concat_of_unsaid fun y hy => ?_
    obtain ⟨o, ho, -⟩ := (hsaid j y).1 hy
    exact hnone o ho

theorem run_updates_concat {js : List Json} {c₁ c₂ c₃ : Config}
    (h : (js.forM update).run c₁ = .ok () c₂) (hj : (update j).run c₂ = .ok () c₃) :
    ((js ++ [j]).forM update).run c₁ = .ok () c₃ := by
  rw [List.forM_eq_forM, List.forM_append, EStateM.run_bind, ← List.forM_eq_forM, h]
  simp [hj]

/-- **Each setting is the last valid word.** No value is refused. After any values each of the two
settings is the one that the last valid value gave which gave one for it, or the initial one; and a
value that is not valid changes neither, whatever else stands in it. -/
theorem update_last (js : List Json) :
    (∃ c, (js.forM update).run initial = .ok () c ∧ LastSaid SaysReopen .reject js c.reopen ∧
      LastSaid SaysVersionPolicy .overwrite js c.versionPolicy) ∧
    ∀ (c : Config) (j : Json), (∀ o, ¬ Options.Given j o) → (update j).run c = .ok () c := by
  refine ⟨?_, fun c j h => run_update_of_not_given h⟩
  induction js using List.reverseRecOn with
  | nil => exact ⟨initial, rfl, .unsaid nofun, .unsaid nofun⟩
  | append_singleton js j ih =>
    obtain ⟨c, hc, hreopen, hversion⟩ := ih
    obtain ⟨c', hc'⟩ := exists_run_update c j
    exact ⟨c', run_updates_concat hc hc',
      lastSaid_update (·.reopen) (fun _ _ => Iff.rfl) (fun _ _ => rfl) hreopen hc',
      lastSaid_update (·.versionPolicy) (fun _ _ => Iff.rfl) (fun _ _ => rfl) hversion hc'⟩

end Config

end DocSync
