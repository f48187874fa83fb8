import DocSync.Proofs.Text.Bounds
import DocSync.Proofs.Text.Extent
import Mathlib.Data.List.Chain

/-! # Edits at several places of one text

Ranges that all address one text can be edited one after the other from the last to the first, as
long as there is a character between any two of them: an edit does not move the places in front of
it. `change_separated` says that this replaces all of them at once.
-/

namespace DocSync

/-- The text from character `i` on, with the characters of every edit replaced. -/
def Edit.spliceAll (t : Text) (i : Nat) : List Edit → Text
  | [] => t.drop i
  | e :: es => (t.take e.start).drop i ++ (e.text ++ spliceAll t e.stop es)

namespace Text

section Front
variable {f g w : Text} {p : Position} {x : Offsets} {r : Range} {e : Edit}

/-- A position is resolved by the characters up to the one that it stands in front of. -/
theorem resolve_append (hx : resolve (f ++ g) p = .ok x) (h : x.char < f.length) (v : Text) :
    resolve (f ++ v) p = .ok x := by
  obtain ⟨a, b, hab, hfuse, hp, rfl⟩ := resolve_eq_ok_iff_extent.1 hx
  have hlt : a.length < f.length := h
  obtain ⟨d, rfl, rfl⟩ := exists_between hab.symm hlt.le
  have hd : d ≠ [] := by
    rintro rfl
    simp at hlt
  rw [fuses_append_right_iff hd] at hfuse
  refine resolve_eq_ok_iff_extent.2 ⟨a, d ++ v, List.append_assoc .., ?_, hp, rfl⟩
  rwa [fuses_append_right_iff hd]

theorem edit_append (he : edit (f ++ g) r w = .ok e) (h : e.stop < f.length) (v : Text) :
    edit (f ++ v) r w = .ok e := by
  have hle := (edit_in_bounds he).1
  obtain ⟨hr, x, y, hx, hy, rfl⟩ := edit_eq_ok.1 he
  exact edit_eq_ok.2 ⟨hr, x, y, resolve_append hx (hle.trans_lt h) v, resolve_append hy h v, rfl⟩

theorem replace_append (he : edit (f ++ g) r w = .ok e) (h : e.stop < f.length) (v : Text) :
    replace (f ++ v) r w = .ok (f.take e.start ++ (e.text ++ (f.drop e.stop ++ v))) := by
  have hle := (edit_in_bounds he).1
  rw [replace_eq, edit_append he h, Except.map, Edit.splice,
    List.take_append_of_le_length (hle.trans h.le), List.drop_append_of_le_length h.le,
    List.append_assoc]

end Front

theorem changes_append (t : Text) (as bs : List Change) :
    changes t (as ++ bs) = (changes t as).bind (changes · bs) := by
  induction as generalizing t with
  | nil => rfl
  | cons c as ih =>
    rw [List.cons_append, changes_cons, changes_cons]
    cases change t c with
    | error e => rfl
    | ok u => exact ih u

/-- One more edit in front of all others. -/
theorem replace_spliceAll {t w : Text} {r : Range} {e : Edit} {es : List Edit}
    (he : edit t r w = .ok e) (hes : ∀ f ∈ es.head?, f.start ≤ t.length)
    (hsep : (e :: es).IsChain fun e f => e.stop < f.start) :
    replace (Edit.spliceAll t 0 es) r w = .ok (Edit.spliceAll t 0 (e :: es)) := by
  cases es with
  | nil =>
    rw [Edit.spliceAll, List.drop_zero, replace_eq, he]
    simp [Except.map, Edit.splice, Edit.spliceAll]
  | cons f es =>
    have hle := (edit_in_bounds he).1
    have hlt : e.stop < f.start := (List.isChain_cons_cons.1 hsep).1
    have hlen : (t.take f.start).length = f.start := List.length_take_of_le (hes f rfl)
    -- Up to the next edit the text is as it was.
    have hfront : Edit.spliceAll t 0 (f :: es) =
        t.take f.start ++ (f.text ++ Edit.spliceAll t f.stop es) := rfl
    rw [← List.take_append_drop f.start t] at he
    rw [hfront, replace_append he (by rwa [hlen]), List.take_take,
      Nat.min_eq_left (hle.trans hlt.le)]
    rfl

theorem changes_separated {t : Text} {cs : List (Range × Text)} {es : List Edit}
    (h : List.Forall₂ (fun c e => edit t c.1 c.2 = .ok e) cs es)
    (hsep : es.IsChain fun e f => e.stop < f.start) :
    changes t (cs.map fun c => .ranged c.1 c.2).reverse = .ok (Edit.spliceAll t 0 es) := by
  induction h with
  | nil => rfl
  | @cons c e cs es he hs ih =>
    have hes : ∀ f ∈ es.head?, f.start ≤ t.length := by
      cases hs with
      | nil => simp
      | cons hf _ =>
        intro f hhead
        obtain rfl := Option.some.inj hhead
        obtain ⟨hle, hlen⟩ := edit_in_bounds hf
        exact hle.trans hlen
    rw [List.map_cons, List.reverse_cons, changes_append, ih hsep.tail]
    simp only [Except.bind, changes_cons, change, replace_spliceAll he hes hsep, changes_nil]

end Text

/-- **Edits from the last to the first are one replacement.** Where the ranges of a list are all
accepted on the text of a document, and each of them ends in front of the start of the next, the
batch of the changes in backward order is applied and replaces each of the ranges in that text. -/
theorem Document.change_separated (d : Document) (version : Int32) (cs : List (Range × Text))
    (es : List Edit) (h : List.Forall₂ (fun c e => d.text.edit c.1 c.2 = .ok e) cs es)
    (hsep : es.IsChain fun e f => e.stop < f.start) :
    (change version (cs.map fun c => .ranged c.1 c.2).reverse).run d =
      .ok () { d with text := Edit.spliceAll d.text 0 es, version } :=
  change_of_ok (Text.changes_separated h hsep)

/-- The later edit makes a pair of the return and the feed around it, and the earlier one is still
made where it was meant. -/
theorem Document.change_separated_pair :
    let d : Document := ⟨"hare", 1, ['a', '\r', 'b', '\n', 'c']⟩
    let r : Range := ⟨⟨0, 0⟩, ⟨0, 1⟩⟩
    let s : Range := ⟨⟨1, 0⟩, ⟨1, 1⟩⟩
    d.text.edit r ['x'] = .ok ⟨0, 1, ['x']⟩ ∧ d.text.edit s [] = .ok ⟨2, 3, []⟩ ∧
      [(⟨0, 1, ['x']⟩ : Edit), ⟨2, 3, []⟩].IsChain (fun e f => e.stop < f.start) ∧
      (change 2 [.ranged s [], .ranged r ['x']]).run d =
        .ok () ⟨"hare", 2, ['x', '\r', '\n', 'c']⟩ := by
  intro d r s
  have hr : d.text.edit r ['x'] = .ok ⟨0, 1, ['x']⟩ := by rfl
  have hs : d.text.edit s [] = .ok ⟨2, 3, []⟩ := by rfl
  have hsep : [(⟨0, 1, ['x']⟩ : Edit), ⟨2, 3, []⟩].IsChain fun e f => e.stop < f.start := by
    simp
  exact ⟨hr, hs, hsep, change_separated d 2 [(r, ['x']), (s, [])] _ (.cons hr (.cons hs .nil)) hsep⟩

end DocSync
