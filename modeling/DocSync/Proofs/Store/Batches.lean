import DocSync.Proofs.Store.Step
import DocSync.Proofs.Text.Simultaneous

/-! # One batch or two

A batch may be sent in two parts. Both ways lead to the same store or are refused with the same
error, that of the first change that does not fit the text in front of it. They differ in what they
leave of the store when they are refused: a batch that was sent as one leaves it as it was, and of
two the first one may have been applied.
-/

namespace DocSync

namespace Text
variable {t : Text} {cs : List Change} {e : EditError}

/-- A batch is refused for the first change that does not fit what the ones before it have left. -/
theorem changes_eq_error_iff : changes t cs = .error e ↔
    ∃ as c bs u, cs = as ++ c :: bs ∧ changes t as = .ok u ∧ change u c = .error e := by
  constructor
  · induction cs generalizing t with
    | nil => simp
    | cons c cs ih =>
      intro h
      rw [changes_cons] at h
      cases hc : change t c with
      | error e' =>
        rw [hc] at h
        cases h
        exact ⟨[], c, cs, t, rfl, rfl, hc⟩
      | ok u =>
        rw [hc] at h
        obtain ⟨as, c', bs, u', rfl, has, hc'⟩ := ih h
        refine ⟨c :: as, c', bs, u', rfl, ?_, hc'⟩
        rw [changes_cons, hc]
        exact has
  · rintro ⟨as, c, bs, u, rfl, has, hc⟩
    rw [changes_append, has, Except.bind, changes_cons, hc, Except.bind]

/-- A full change forgets the text in front of it, but only if that text could be made. -/
theorem changes_full (t w : Text) (as bs : List Change) :
    changes t (as ++ [.full w] ++ bs) = (changes t as).bind fun _ => changes w bs := by
  rw [List.append_assoc, changes_append]
  rfl

end Text

namespace Document
variable {d d' : Document} {version : Int32} {t : Text} {as bs : List Change}

theorem run_change_eq_ok_iff : (change version as).run d = .ok () d' ↔
    ∃ t, d.text.changes as = .ok t ∧ d' = { d with text := t, version } := by
  cases h : d.text.changes as with
  | error e => simp [change_of_error h]
  | ok t => simp [change_of_ok h, eq_comm]

/-- Neither the document nor the changes before a full one can be told from the new text. -/
theorem changes_of_change_full (h : (change version (as ++ [.full t] ++ bs)).run d = .ok () d') :
    t.changes bs = .ok d'.text := by
  obtain ⟨u, hu, rfl⟩ := run_change_eq_ok_iff.1 h
  rw [Text.changes_full] at hu
  cases ha : d.text.changes as with
  | error e =>
    rw [ha] at hu
    cases hu
  | ok f =>
    rw [ha] at hu
    exact hu

end Document

namespace Store

theorem insert_insert (u : Uri) (d e : Document) (es : List (Uri × Document)) :
    insert u e (insert u d es) = insert u e es := by
  induction es with
  | nil => simp [insert]
  | cons x es ih =>
    by_cases hx : x.1 = u
    · simp [insert, hx]
    · simp [insert, hx, ih]

@[simp] theorem put_put (s : Store) (u : Uri) (d e : Document) :
    (s.put u d).put u e = s.put u e := congrArg (Store.mk s.policy) (insert_insert u d e s.entries)

/-- Sends a batch and then another one, unless the first is refused. -/
def changeParts (u : Uri) (v : Int32) (as : List Change) (w : Int32) (bs : List Change) :
    EStateM StoreError Store Unit := do
  change u v as
  change u w bs

section Batches
variable {s s' : Store} {u : Uri} {d : Document} {v w : Int32} {as bs : List Change}

theorem run_changeParts_of_error {e : StoreError} (h : (change u v as).run s = .error e s') :
    (changeParts u v as w bs).run s = .error e s' := by
  rw [changeParts, EStateM.run_bind, h]

theorem run_changeParts_of_ok (h : (change u v as).run s = .ok () s') :
    (changeParts u v as w bs).run s = (change u w bs).run s' := by
  rw [changeParts, EStateM.run_bind, h]

theorem not_stale {current received : Int32} (hv : s.policy = .strict → current < received) :
    ¬ (s.policy = .strict ∧ received ≤ current) := fun h => Int32.not_le.2 (hv h.1) h.2

/-- Where the first part does not fit, both ways are refused alike, and neither leaves a trace. -/
theorem run_change_append_of_error {cause : EditError} (hd : s.get? u = some d)
    (hv : s.policy = .strict → d.version < v ∧ v < w) (ha : d.text.changes as = .error cause)
    (bs : List Change) : (change u w (as ++ bs)).run s = .error (.edit cause) s ∧
      (changeParts u v as w bs).run s = .error (.edit cause) s := by
  have hfirst := not_stale fun h => (hv h).1
  have hboth := not_stale fun h => Int32.lt_trans (hv h).1 (hv h).2
  have hab : d.text.changes (as ++ bs) = .error cause := by
    rw [Text.changes_append, ha, Except.bind]
  exact ⟨run_change_of_error hd hboth hab,
    run_changeParts_of_error (run_change_of_error hd hfirst ha)⟩

/-- Where the first part fits, the second one decides. If it is refused, the batch that was sent as
one leaves the store as it was, and of the two parts the first one is applied. -/
theorem run_change_append_of_ok {t : Text} (hd : s.get? u = some d)
    (hv : s.policy = .strict → d.version < v ∧ v < w) (ha : d.text.changes as = .ok t)
    (bs : List Change) :
    let s' := s.put u { d with text := t, version := v }
    (∃ t', (change u w (as ++ bs)).run s = .ok () t' ∧
      (changeParts u v as w bs).run s = .ok () t') ∨
    ∃ cause, (change u w (as ++ bs)).run s = .error (.edit cause) s ∧
      (changeParts u v as w bs).run s = .error (.edit cause) s' := by
  intro s'
  have hfirst := not_stale fun h => (hv h).1
  have hsecond : ¬ (s'.policy = .strict ∧ w ≤ v) := not_stale fun h => (hv h).2
  have hboth := not_stale fun h => Int32.lt_trans (hv h).1 (hv h).2
  have hab : d.text.changes (as ++ bs) = t.changes bs := by rw [Text.changes_append, ha, Except.bind]
  have hd' : s'.get? u = some { d with text := t, version := v } := by simp [s']
  rw [run_changeParts_of_ok (run_change_of_ok hd hfirst ha)]
  cases hb : t.changes bs with
  | error cause =>
    rw [hb] at hab
    exact .inr ⟨cause, run_change_of_error hd hboth hab, run_change_of_error hd' hsecond hb⟩
  | ok t' =>
    rw [hb] at hab
    refine .inl ⟨_, run_change_of_ok hd hboth hab, ?_⟩
    rw [run_change_of_ok hd' hsecond hb, put_put]

/-- A refusal that is not about versions comes from a change that does not fit. -/
theorem changes_of_run_change_eq_error {e : StoreError} (hd : s.get? u = some d)
    (hv : ¬ (s.policy = .strict ∧ v ≤ d.version)) (h : (change u v as).run s = .error e s') :
    ∃ cause, d.text.changes as = .error cause ∧ e = .edit cause := by
  cases ha : d.text.changes as with
  | error cause =>
    rw [run_change_of_error hd hv ha] at h
    cases h
    exact ⟨cause, rfl, rfl⟩
  | ok t =>
    rw [run_change_of_ok hd hv ha] at h
    cases h

/-- **One batch or two.** With versions that are not stale, a batch is applied exactly if its two
parts are, one after the other, and then the store is the same. It is refused with the error of the
part that is refused, which is that of the first change that does not fit, and leaves the store as
it was; the parts leave it with the first one applied, if that one fits. What stands in front of a
full change has to fit, and nothing else of it is left. -/
theorem change_split (hd : s.get? u = some d)
    (hv : s.policy = .strict → d.version < v ∧ v < w) (as bs : List Change) :
    (∀ t, (change u w (as ++ bs)).run s = .ok () t ↔
      (changeParts u v as w bs).run s = .ok () t) ∧
    (∀ e t, (change u w (as ++ bs)).run s = .error e t →
      t = s ∧
      (∃ front c rest f cause, as ++ bs = front ++ c :: rest ∧ d.text.changes front = .ok f ∧
        f.change c = .error cause ∧ e = .edit cause) ∧
      (∀ cause, d.text.changes as = .error cause →
        (change u v as).run s = .error e s ∧ (changeParts u v as w bs).run s = .error e s) ∧
      ∀ f, d.text.changes as = .ok f →
        let s' := s.put u { d with text := f, version := v }
        (change u v as).run s = .ok () s' ∧ (change u w bs).run s' = .error e s' ∧
          (changeParts u v as w bs).run s = .error e s') ∧
    ∀ (c : Document) (version : Int32) (front : List Change) (t : Text) (rest : List Change),
      (∀ c', (Document.change version (front ++ [.full t] ++ rest)).run c = .ok () c' →
        t.changes rest = .ok c'.text) ∧
      ∀ e, c.text.changes front = .error e →
        (Document.change version (front ++ [.full t] ++ rest)).run c = .error e c := by
  have hfirst := not_stale fun h => (hv h).1
  have hboth := not_stale fun h => Int32.lt_trans (hv h).1 (hv h).2
  refine ⟨fun t => ?_, fun e t he => ⟨?_, ?_, ?_, ?_⟩, fun c version front t rest => ⟨?_, ?_⟩⟩
  · cases ha : d.text.changes as with
    | error cause =>
      obtain ⟨hmerged, hparts⟩ := run_change_append_of_error hd hv ha bs
      rw [hmerged, hparts]
    | ok f =>
      obtain ⟨t', hmerged, hparts⟩ | ⟨cause, hmerged, hparts⟩ :=
        run_change_append_of_ok hd hv ha bs
      · rw [hmerged, hparts]
      · simp [hmerged, hparts]
  · obtain ⟨cause, hcause, -⟩ := changes_of_run_change_eq_error hd hboth he
    rw [run_change_of_error hd hboth hcause] at he
    cases he
    rfl
  · obtain ⟨cause, hcause, rfl⟩ := changes_of_run_change_eq_error hd hboth he
    obtain ⟨front, c, rest, f, hsplit, hfront, hc⟩ := Text.changes_eq_error_iff.1 hcause
    exact ⟨front, c, rest, f, cause, hsplit, hfront, hc, rfl⟩
  · intro cause ha
    obtain ⟨hmerged, hparts⟩ := run_change_append_of_error hd hv ha bs
    rw [hmerged] at he
    cases he
    exact ⟨run_change_of_error hd hfirst ha, hparts⟩
  · intro f ha
    have hdone := run_change_of_ok hd hfirst ha
    obtain ⟨t', hmerged, -⟩ | ⟨cause, hmerged, hparts⟩ := run_change_append_of_ok hd hv ha bs
    · rw [hmerged] at he
      cases he
    · rw [hmerged] at he
      cases he
      refine ⟨hdone, ?_, hparts⟩
      rw [← hparts, run_changeParts_of_ok hdone]
  · intro c' h
    exact Document.changes_of_change_full h
  · intro e h
    apply Document.change_of_error
    rw [Text.changes_full, h, Except.bind]

def scroll : Uri := ⟨"file:///scroll", by rfl⟩

def scrollOpened : Document := ⟨"hare", 1, ['a', 'b']⟩

/-- The first part fits, and the second one does up to its last change. -/
theorem change_split_scroll :
    let s : Store := ⟨.strict, [(scroll, scrollOpened)]⟩
    let as : List Change := [.ranged ⟨⟨0, 0⟩, ⟨0, 1⟩⟩ ['x', 'y']]
    let bs : List Change := [.ranged ⟨⟨0, 3⟩, ⟨0, 3⟩⟩ ['z'], .ranged ⟨⟨1, 0⟩, ⟨1, 0⟩⟩ []]
    let e : StoreError := .edit (.invalidPosition ⟨1, 0⟩ (.lineOutOfBounds 1))
    let s' : Store := ⟨.strict, [(scroll, ⟨"hare", 2, ['x', 'y', 'b']⟩)]⟩
    s.get? scroll = some scrollOpened ∧
      (s.policy = .strict → scrollOpened.version < 2 ∧ (2 : Int32) < 3) ∧
      (change scroll 3 (as ++ bs)).run s = .error e s ∧
      (change scroll 2 as).run s = .ok () s' ∧ (change scroll 3 bs).run s' = .error e s' ∧
      (changeParts scroll 2 as 3 bs).run s = .error e s' := by
  intro s as bs e s'
  have hd : s.get? scroll = some scrollOpened := by rfl
  have hv : s.policy = .strict → scrollOpened.version < 2 ∧ (2 : Int32) < 3 := by decide
  have he : (change scroll 3 (as ++ bs)).run s = .error e s := by rfl
  have ha : scrollOpened.text.changes as = .ok ['x', 'y', 'b'] := by rfl
  obtain ⟨-, -, -, hsplit⟩ := (change_split hd hv as bs).2.1 e s he
  exact ⟨hd, hv, he, hsplit _ ha⟩

end Batches

end Store
end DocSync
