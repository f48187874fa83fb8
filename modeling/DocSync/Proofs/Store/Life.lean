import DocSync.Proofs.Store.Run
import Mathlib.Data.List.Induction

/-! # The life of a document

A document lives from an operation that opens it to the next one that opens or closes it, of those
that succeed: these are the turns of its history. Between two turns it keeps its language, and its
version is that of the last change that was accepted, or the one it was opened with. Under the
strict policy these versions increase.
-/

namespace DocSync.Store

/-- The document that an operation opens. -/
def Operation.opened? : Operation → Option Document
  | .openNew _ d | .reopen _ d => some d
  | _ => none

/-- Whether an operation opens or closes its document. -/
def Operation.isTurn : Operation → Bool
  | .openNew .. | .reopen .. | .close _ => true
  | _ => false

theorem isTurn_of_opened? {op : Operation} {d : Document} (h : op.opened? = some d) :
    op.isTurn = true := by
  cases op with
  | openNew u e => rfl
  | reopen u e => rfl
  | _ => cases h

abbrev History := List (Operation × Answer)

section Turns

/-- The openings and closings under an identifier that succeeded. -/
def turns (u : Uri) (h : History) : History :=
  h.filter fun x => x.1.uri = u && x.1.isTurn && x.2 = .done

/-- Whether the last of them is an opening. -/
def isOpen (u : Uri) (h : History) : Bool := ((turns u h).getLast?.bind (·.1.opened?)).isSome

/-- The version of a change under an identifier, if it is one that was accepted. -/
def acceptedVersion? (u : Uri) : Operation × Answer → Option Int32
  | (.change v version _, .done) => if v = u then some version else none
  | _ => none

/-- The versions of the changes under an identifier that were accepted. -/
def accepted (u : Uri) (h : History) : List Int32 := h.filterMap (acceptedVersion? u)

theorem turns_append (u : Uri) (h k : History) : turns u (h ++ k) = turns u h ++ turns u k :=
  List.filter_append h k

theorem turns_cons_eq_nil {u : Uri} {op : Operation} {a : Answer} {h : History} :
    turns u ((op, a) :: h) = [] ↔
      ¬ (op.uri = u ∧ op.isTurn = true ∧ a = .done) ∧ turns u h = [] := by
  by_cases ht : op.uri = u ∧ op.isTurn = true ∧ a = .done <;>
    simp_all [turns]

theorem isOpen_concat (u : Uri) (h : History) (op : Operation) (a : Answer) :
    isOpen u (h ++ [(op, a)]) =
      if op.uri = u ∧ op.isTurn = true ∧ a = .done then op.opened?.isSome else isOpen u h := by
  rw [isOpen, isOpen, turns_append]
  split
  · next ht =>
    obtain ⟨rfl, ht, rfl⟩ := ht
    simp [turns, ht]
  · next ht =>
    have hnil : turns u [(op, a)] = [] := turns_cons_eq_nil.2 ⟨ht, rfl⟩
    rw [hnil, List.append_nil]

theorem accepted_cons (u : Uri) (x : Operation × Answer) (h : History) :
    accepted u (x :: h) = accepted u [x] ++ accepted u h := by
  rw [accepted, ← List.singleton_append, List.filterMap_append]
  rfl

theorem accepted_of_ne {u : Uri} {op : Operation} (hu : op.uri ≠ u) (a : Answer) :
    accepted u [(op, a)] = [] := by
  unfold accepted acceptedVersion?
  cases op with
  | change v version cs => cases a <;> simp_all [Operation.uri]
  | _ => rfl

end Turns

section Act
variable {policy : VersionPolicy} {op : Operation}

theorem act_of_isTurn {d? : Option Document} (ht : op.isTurn = true)
    (ha : (op.act policy d?).2 = .done) : (op.act policy d?).1 = op.opened? := by
  cases op with
  | openNew u d =>
    cases d? with
    | none => rfl
    | some e => cases ha
  | reopen u d => rfl
  | close u =>
    cases d? with
    | none => cases ha
    | some e => rfl
  | _ => cases ht

/-- What is not open is opened by a turn only. -/
theorem act_none (h : ¬ (op.isTurn = true ∧ (op.act policy none).2 = .done)) :
    (op.act policy none).1 = none := by
  cases op with
  | openNew u d => exact absurd ⟨rfl, rfl⟩ h
  | reopen u d => exact absurd ⟨rfl, rfl⟩ h
  | _ => rfl

/-- Between two turns a document stays as it is, unless a change is accepted. -/
theorem act_some {d : Document} (h : ¬ (op.isTurn = true ∧ (op.act policy (some d)).2 = .done)) :
    ((op.act policy (some d)).1 = some d ∧
      ∀ u, accepted u [(op, (op.act policy (some d)).2)] = []) ∨
    ∃ u version cs t, op = .change u version cs ∧ (policy = .strict → d.version < version) ∧
      op.act policy (some d) = (some { d with text := t, version }, .done) := by
  cases op with
  | reopen u e => exact absurd ⟨rfl, rfl⟩ h
  | close u => exact absurd ⟨rfl, rfl⟩ h
  | change u version cs =>
    rw [Operation.act]
    by_cases hv : policy = .strict ∧ version ≤ d.version
    · rw [if_pos hv]
      exact .inl ⟨rfl, fun _ => rfl⟩
    rw [if_neg hv]
    cases d.text.changes cs with
    | error e => exact .inl ⟨rfl, fun _ => rfl⟩
    | ok t =>
      refine .inr ⟨u, version, cs, t, rfl, fun hp => ?_, rfl⟩
      exact Int32.not_le.1 fun hle => hv ⟨hp, hle⟩
  | _ => exact .inl ⟨rfl, fun _ => rfl⟩

/-- A document is open after a turn that opens it, and else if it was open before. -/
theorem isSome_act (policy : VersionPolicy) (op : Operation) (d? : Option Document) :
    (op.act policy d?).1.isSome =
      if op.isTurn = true ∧ (op.act policy d?).2 = .done then op.opened?.isSome else d?.isSome := by
  split
  · next h => rw [act_of_isTurn h.1 h.2]
  · next h =>
    cases d? with
    | none => rw [act_none h]
    | some d =>
      rcases act_some h with ⟨hd, -⟩ | ⟨u, version, cs, t, -, -, hd⟩
      · rw [hd]
      · rw [hd]
        rfl

end Act

/-- A document that was opened as `d` and whose accepted changes have the versions `vs`. -/
structure Carries (policy : VersionPolicy) (d : Document) (vs : List Int32) (now : Document) :
    Prop where
  languageId : now.languageId = d.languageId
  version : now.version = vs.getLast?.getD d.version
  increasing : policy = .strict → (d.version :: vs).Pairwise (· < ·)

section Carries
variable {policy : VersionPolicy} {d now : Document} {vs : List Int32}

theorem carries_opened (policy : VersionPolicy) (d : Document) : Carries policy d [] d :=
  ⟨rfl, rfl, fun _ => List.pairwise_singleton _ _⟩

/-- The last of versions that increase is the greatest. -/
theorem le_getLast {v : Int32} (h : (v :: vs).Pairwise (· < ·)) :
    ∀ w ∈ v :: vs, w ≤ vs.getLast?.getD v := by
  rcases List.eq_nil_or_concat vs with rfl | ⟨ws, x, rfl⟩
  · intro w hw
    rw [List.mem_singleton.1 hw]
    exact Int32.le_refl v
  · rw [List.concat_eq_append] at h ⊢
    rw [← List.cons_append, List.pairwise_append] at h
    rw [List.getLast?_concat, Option.getD_some, ← List.cons_append]
    intro w hw
    rcases List.mem_append.1 hw with hw | hw
    · exact Int32.le_of_lt (h.2.2 w hw x (List.mem_singleton_self x))
    · rw [List.mem_singleton.1 hw]
      exact Int32.le_refl x

theorem Carries.le_version (h : Carries policy d vs now) (hp : policy = .strict) :
    ∀ w ∈ d.version :: vs, w ≤ now.version := by
  rw [h.version]
  exact le_getLast (h.increasing hp)

theorem Carries.changed (h : Carries policy d vs now) {version : Int32}
    (hv : policy = .strict → now.version < version) (t : Text) :
    Carries policy d (vs ++ [version]) { now with text := t, version } where
  languageId := h.languageId
  version := by rw [List.getLast?_concat, Option.getD_some]
  increasing hp := by
    rw [← List.cons_append]
    refine List.pairwise_append.2 ⟨h.increasing hp, List.pairwise_singleton _ _, ?_⟩
    intro w hw x hx
    rw [List.mem_singleton.1 hx]
    exact Int32.lt_of_le_of_lt (h.le_version hp w hw) (hv hp)

theorem Carries.act (h : Carries policy d vs now) {op : Operation}
    (ht : ¬ (op.isTurn = true ∧ (op.act policy (some now)).2 = .done)) :
    ∃ next, (op.act policy (some now)).1 = some next ∧
      Carries policy d (vs ++ accepted op.uri [(op, (op.act policy (some now)).2)]) next := by
  rcases act_some ht with ⟨hd, ha⟩ | ⟨u, version, cs, t, rfl, hv, hd⟩
  · rw [ha, List.append_nil]
    exact ⟨now, hd, h⟩
  · have hacc : accepted u [(.change u version cs, .done)] = [version] := by
      simp [accepted, acceptedVersion?]
    rw [hd, Operation.uri, hacc]
    exact ⟨_, rfl, h.changed hv t⟩

end Carries

section Runs
variable {policy : VersionPolicy} {s : Store} {u : Uri} {d now : Document} {vs : List Int32}

/-- An opening that succeeds puts in its document. -/
theorem get?_step_opened {op : Operation} (hd : op.opened? = some d) (ha : (s.step op).2 = .done) :
    (s.step op).1.get? op.uri = some d := by
  rw [answer_step] at ha
  rw [get?_step, if_pos rfl, act_of_isTurn (isTurn_of_opened? hd) ha, hd]

theorem Carries.step (h : Carries policy d vs now) (hp : s.policy = policy)
    (hs : s.get? u = some now) {op : Operation}
    (ht : ¬ (op.uri = u ∧ op.isTurn = true ∧ (s.step op).2 = .done)) :
    ∃ next, (s.step op).1.get? u = some next ∧
      Carries policy d (vs ++ accepted u [(op, (s.step op).2)]) next := by
  rw [answer_step, hp] at ht ⊢
  rw [get?_step, hp]
  by_cases hu : op.uri = u
  · subst hu
    rw [hs] at ht ⊢
    rw [if_pos rfl]
    exact h.act fun hdone => ht ⟨rfl, hdone⟩
  · rw [if_neg hu, accepted_of_ne hu, List.append_nil]
    exact ⟨now, hs, h⟩

/-- What a document carries goes on until its next turn. -/
theorem Carries.run (h : Carries policy d vs now) (hp : s.policy = policy)
    (hs : s.get? u = some now) (ops : List Operation) (ht : turns u (s.history ops) = []) :
    ∃ next, (s.run ops).1.get? u = some next ∧
      Carries policy d (vs ++ accepted u (s.history ops)) next := by
  -- By induction on the operations; `vs` takes in what each of them adds to the accepted versions.
  induction ops generalizing s now vs with
  | nil => exact ⟨now, hs, by rwa [history_nil, accepted, List.filterMap_nil, List.append_nil]⟩
  | cons op ops ih =>
    rw [history_cons, turns_cons_eq_nil] at ht
    obtain ⟨next, hnext, hc⟩ := h.step hp hs ht.1
    rw [run_cons, history_cons, accepted_cons, ← List.append_assoc]
    exact ih hc ((policy_step s op).trans hp) hnext ht.2

/-- A stretch of a run in which a document lives: it begins with an operation that opens it as `d`,
and no turn follows. -/
structure Lives (policy : VersionPolicy) (pre : List Operation) (op : Operation) (d : Document)
    (mid : List Operation) : Prop where
  opened : op.opened? = some d
  done : ((reached policy pre).step op).2 = .done
  goesOn : turns op.uri ((reached policy (pre ++ [op])).history mid) = []

theorem Lives.exists_carries {pre mid : List Operation} {op : Operation}
    (h : Lives policy pre op d mid) :
    ∃ now, (reached policy (pre ++ op :: mid)).get? op.uri = some now ∧
      Carries policy d (accepted op.uri ((reached policy (pre ++ [op])).history mid)) now := by
  have hgoesOn := h.goesOn
  have hpolicy := policy_reached policy (pre ++ [op])
  rw [reached_concat] at hgoesOn hpolicy ⊢
  rw [reached_append, run_cons]
  exact (carries_opened policy d).run hpolicy (get?_step_opened h.opened h.done) mid hgoesOn

/-- A document is open exactly if the last of its turns is an opening. -/
theorem isSome_get?_reached (policy : VersionPolicy) (ops : List Operation) (u : Uri) :
    ((reached policy ops).get? u).isSome = isOpen u ((empty policy).history ops) := by
  -- The run is taken from its end, as the last operation decides if it is a turn of the document.
  induction ops using List.reverseRecOn with
  | nil => rfl
  | append_singleton ops op ih =>
    rw [reached_concat, history_append, history_cons, history_nil, isOpen_concat, ← ih,
      ← reached, get?_step, answer_step]
    by_cases hu : op.uri = u
    · subst hu
      rw [if_pos rfl, isSome_act]
      simp only [true_and]
    · rw [if_neg hu, if_neg fun h => hu h.1]

end Runs

end DocSync.Store
