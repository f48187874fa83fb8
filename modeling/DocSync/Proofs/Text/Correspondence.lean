import DocSync.Proofs.Text.Resolution

/-! # Positions and offsets

A character of a text stands on its line behind a part of the content, or it is the feed of a pair
that ends the line (`exists_place`). Only in the second case no position is resolved to it, and
everywhere else `resolve` and `ofByte?` undo each other.
-/

namespace DocSync

theorem Position.eq_of_not_lt {p q : Position} (h : ¬ p < q) (h' : ¬ q < p) : p = q := by
  obtain ⟨line, character⟩ := p
  obtain ⟨line', character'⟩ := q
  simp only [lt_iff_toNat] at h h'
  simp only [mk.injEq, ← UInt32.toNat_inj]
  omega

namespace Text

/-- Place `i` is between a return and the feed that comes right after it. -/
def InsidePair (t : Text) (i : Nat) : Prop :=
  ∃ a b, t = a ++ '\r' :: '\n' :: b ∧ i = a.length + 1

/-- Character `i` contains byte `b`. The place behind the last character is behind the last byte. -/
def Owns (t : Text) (b i : Nat) : Prop :=
  i < t.length ∧ (bytes (t.take i)).length ≤ b ∧ b < (bytes (t.take (i + 1))).length ∨
    i = t.length ∧ b = (bytes t).length

/-- The lines of a text can be counted in 32 bits, and so can the code units of each. -/
structure Fits (t : Text) : Prop where
  lineCount_lt : lineCount t < UInt32.size
  length_lt : ∀ l ∈ lines t, (units l).length < UInt32.size

section Weight
variable {w : Char → Nat}

theorem lt_weight_take_succ {t : Text} {n : Nat} (h : charsWithin w t n < t.length) :
    n < weight w (t.take (charsWithin w t n + 1)) := by
  induction t generalizing n with
  | nil => simp at h
  | cons c t ih =>
    unfold charsWithin at h ⊢
    split
    · next hc =>
      rw [if_pos hc, List.length_cons, Nat.add_lt_add_iff_right] at h
      have hn := ih h
      rw [List.take_succ_cons, weight_cons]
      omega
    · simp only [Nat.zero_add, List.take_succ_cons, List.take_zero, weight_cons, weight_nil]
      omega

end Weight

theorem owns_charsWithin {t : Text} {b : Nat} (h : b ≤ (bytes t).length) :
    Owns t b (charsWithin Char.utf8Size t b) := by
  rw [length_bytes] at h
  have hle := weight_take_charsWithin_le (w := Char.utf8Size) t b
  unfold Owns
  simp only [length_bytes]
  by_cases hc : charsWithin Char.utf8Size t b < t.length
  · exact .inl ⟨hc, hle, lt_weight_take_succ hc⟩
  · have hlen : charsWithin Char.utf8Size t b = t.length :=
      le_antisymm (charsWithin_le_length t b) (not_lt.1 hc)
    rw [hlen, List.take_length] at hle
    exact .inr ⟨hlen, le_antisymm h hle⟩

section LineTable
variable {ls : List Text}

/-- A character of a line stands on that line, and what is behind the last one counts as on it. -/
theorem lineOf_charsBefore_add {l : Text} {k m : Nat} (h : ls[k]? = some l)
    (hm : m < l.length ∨ k + 1 = ls.length) : lineOf ls (charsBefore ls k + m) = k := by
  induction k generalizing ls with
  | zero =>
    cases ls with
    | nil => simp at h
    | cons x ls =>
      obtain rfl : x = l := by simpa using h
      cases ls with
      | nil => rfl
      | cons y ls =>
        have hlt : m < x.length := by simpa using hm
        simp [lineOf, charsBefore, not_le.2 hlt]
  | succ k ih =>
    cases ls with
    | nil => simp at h
    | cons x ls =>
      have hls : ls[k]? = some l := by simpa using h
      have hstart : charsBefore (x :: ls) (k + 1) = x.length + charsBefore ls k := by
        simp [charsBefore]
      cases ls with
      | nil => simp at hls
      | cons y ls =>
        rw [lineOf, hstart, if_pos (by omega),
          show x.length + charsBefore (y :: ls) k + m - x.length = charsBefore (y :: ls) k + m by
            omega, ih hls (by simpa using hm)]

theorem exists_column (hls : ls ≠ []) {n : Nat} (h : n ≤ ls.flatten.length) :
    ∃ l m, ls[lineOf ls n]? = some l ∧ n = charsBefore ls (lineOf ls n) + m ∧
      (m < l.length ∨ lineOf ls n + 1 = ls.length ∧ m ≤ l.length) := by
  fun_induction lineOf ls n with
  | case1 l y ls n hn ih =>
    rw [List.flatten_cons, List.length_append] at h
    obtain ⟨x, m, hx, hm, hend⟩ := ih (by simp) (by omega)
    have hstart (k : Nat) : charsBefore (l :: y :: ls) (k + 1) =
        l.length + charsBefore (y :: ls) k := by
      simp [charsBefore]
    refine ⟨x, m, by simpa using hx, ?_, by simpa using hend⟩
    rw [hstart]
    omega
  | case2 l y ls n hn =>
    exact ⟨l, n, rfl, by simp [charsBefore], .inl (not_le.1 hn)⟩
  | case3 ls n hone =>
    cases ls with
    | nil => exact absurd rfl hls
    | cons l ls =>
      cases ls with
      | nil => exact ⟨l, n, rfl, by simp [charsBefore], .inr ⟨rfl, by simpa using h⟩⟩
      | cons y ls => exact (hone l y ls rfl).elim

theorem lineOf_mono (ls : List Text) {m n : Nat} (h : m ≤ n) : lineOf ls m ≤ lineOf ls n := by
  fun_induction lineOf ls m generalizing n with
  | case1 l y ls m hm ih =>
    rw [lineOf, if_pos (hm.trans h)]
    exact Nat.succ_le_succ (ih (by omega))
  | case2 => exact Nat.zero_le _
  | case3 => exact Nat.zero_le _

end LineTable

section Places
variable {t l : Text} {i k : Nat}

/-- A part of a line from its front is a part of its content, or it ends inside the pair that ends
the line. -/
theorem take_append_terminator {c w u : Text} {m : Nat} (hw : w = [] ∨ IsTerminator w u)
    (hm : m < (c ++ w).length ∨ w = [] ∧ m ≤ (c ++ w).length) :
    (c ++ w).take m <+: c ∨ w = ['\r', '\n'] ∧ (c ++ w).take m = c ++ ['\r'] := by
  rw [List.length_append] at hm
  by_cases hc : m ≤ c.length
  · left
    rw [List.take_append_of_le_length hc]
    exact List.take_prefix _ _
  · right
    rcases hw with rfl | rfl | rfl | ⟨rfl, -⟩
    · simp at hm
      omega
    · simp at hm
      omega
    · obtain rfl : m = c.length + 1 := by
        simp at hm
        omega
      rw [List.take_length_add_append]
      exact ⟨rfl, rfl⟩
    · simp at hm
      omega

/-- A line does not begin between a return and its feed. -/
theorem head?_ne_of_getLast?_before (hr : (before t k).getLast? = some '\r') (hk : k < lineCount t)
    {r : Text} (ht : t = before t k ++ r) : r.head? ≠ some '\n' := by
  cases k with
  | zero => simp [before] at hr
  | succ k =>
    obtain ⟨l, hl⟩ := exists_line (Nat.lt_of_succ_lt hk)
    obtain ⟨w, u, hlw, htl, hw⟩ := line_split hl
    have hru : r = u := by
      rw [before_succ hl, List.append_assoc] at ht
      exact List.append_cancel_left (List.append_cancel_left (ht.symm.trans htl))
    rw [before_succ hl, hlw] at hr
    rcases hw with ⟨-, hw⟩ | ⟨hlast, -⟩
    · rcases hw with rfl | rfl | ⟨rfl, hu⟩
      · simp at hr
      · simp at hr
      · rwa [hru]
    · omega

theorem not_insidePair (hl : (lines t)[k]? = some l) {a : Text} (ha : a <+: content l) :
    ¬ InsidePair t (before t k ++ a).length := by
  rintro ⟨b, c, ht, hb⟩
  obtain ⟨w, u, hlw, htl, hw⟩ := line_split hl
  obtain ⟨r, hr⟩ := ha
  have hsplit : t = (before t k ++ a) ++ (r ++ (w ++ u)) := by
    rw [List.append_assoc, ← List.append_assoc a, hr, ← List.append_assoc (content l), ← hlw,
      ← htl]
  have hpair : (before t k ++ a) ++ (r ++ (w ++ u)) = (b ++ ['\r']) ++ '\n' :: c := by
    rw [← hsplit, List.append_assoc]
    exact ht
  obtain ⟨hfront, hrest⟩ := List.append_inj hpair (by simpa using hb)
  -- The feed is no part of the content, so the content ends in front of it.
  have hnil : r = [] := by
    cases r with
    | nil => rfl
    | cons d r =>
      obtain ⟨rfl, -⟩ := List.cons.inj hrest
      exact absurd (unbroken_content l '\n' (by rw [← hr]; simp)) (by decide)
  subst hnil
  rw [List.append_nil] at hr
  subst hr
  rcases List.eq_nil_or_concat (content l) with hc | ⟨d, e, hc⟩
  · rw [hc, List.append_nil] at hfront
    refine head?_ne_of_getLast?_before (t := t) (k := k) ?_ (lt_lineCount hl) htl ?_
    · rw [hfront, List.getLast?_concat]
    · rw [hlw, hc, List.nil_append]
      rw [List.nil_append] at hrest
      rw [hrest]
      rfl
  · rw [hc, List.concat_eq_append, ← List.append_assoc] at hfront
    obtain ⟨-, he⟩ := List.append_inj' hfront rfl
    obtain rfl : e = '\r' := by simpa using he
    exact absurd (unbroken_content l '\r' (by rw [hc]; simp)) (by decide)

theorem insidePair_of_line (hl : (lines t)[k]? = some l) (hc : l = content l ++ ['\r', '\n']) :
    InsidePair t (before t k ++ (content l ++ ['\r'])).length := by
  obtain ⟨w, u, -, ht, -⟩ := line_split hl
  refine ⟨before t k ++ content l, u, ?_, by simp [Nat.add_assoc]⟩
  conv_lhs => rw [ht, hc]
  simp

/-- What is in front of a character: the lines before its own, and then a part of the content of its
line, or all of the content and the return of a pair. -/
theorem exists_place (h : i ≤ t.length) :
    ∃ l a, (lines t)[lineOf (lines t) i]? = some l ∧ a <+: l ∧
      t.take i = before t (lineOf (lines t) i) ++ a ∧
      (a <+: content l ∧ ¬ InsidePair t i ∨
        l = content l ++ ['\r', '\n'] ∧ a = content l ++ ['\r'] ∧ InsidePair t i) := by
  have hflat : i ≤ (lines t).flatten.length := by rwa [flatten_lines]
  obtain ⟨l, m, hl, hm, hend⟩ := exists_column (lines_ne_nil t) hflat
  obtain ⟨w, u, hlw, ht, hw⟩ := line_split hl
  have hi : i = (before t (lineOf (lines t) i)).length + m := hm
  have hcount : lineCount t = (lines t).length := rfl
  have hle : m ≤ l.length := by
    rcases hend with h | h
    · exact h.le
    · exact h.2
  have hlen : (before t (lineOf (lines t) i) ++ l.take m).length = i := by
    rw [List.length_append, List.length_take, Nat.min_eq_left hle, ← hi]
  refine ⟨l, l.take m, hl, List.take_prefix _ _, ?_, ?_⟩
  · have htake : (before t (lineOf (lines t) i) ++ (l ++ u)).take
        ((before t (lineOf (lines t) i)).length + m) =
        before t (lineOf (lines t) i) ++ l.take m := by
      rw [List.take_length_add_append, List.take_append_of_le_length hle]
    rwa [← ht, ← hi] at htake
  · have hw' : w = [] ∨ IsTerminator w u := by
      rcases hw with ⟨-, hw⟩ | ⟨-, hw, -⟩
      · exact .inr hw
      · exact .inl hw
    have hm' : m < l.length ∨ w = [] ∧ m ≤ l.length := by
      rcases hw with ⟨hlt, -⟩ | ⟨-, hw, -⟩
      · left
        rcases hend with h | ⟨h, -⟩
        · exact h
        · omega
      · exact .inr ⟨hw, hle⟩
    rw [hlw] at hm'
    have hpart := take_append_terminator hw' hm'
    rw [← hlw] at hpart
    rcases hpart with hpart | ⟨rfl, hpart⟩
    · have hout := not_insidePair hl hpart
      rw [hlen] at hout
      exact .inl ⟨hpart, hout⟩
    · have hinside := insidePair_of_line hl hlw
      rw [← hpart, hlen] at hinside
      exact .inr ⟨hlw, hpart, hinside⟩

end Places

section Positions
variable {t l a : Text} {p q : Position} {x y : Offsets} {b i : Nat}

theorem char_lt_char (h : p < q) (hx : resolve t p = .ok x) (hy : resolve t q = .ok y) :
    x.char < y.char := by
  by_contra hle
  have hunit := unit_lt_unit h hx hy
  rw [unit_of_resolve hx, unit_of_resolve hy] at hunit
  exact absurd (weight_take_mono t (not_lt.1 hle)) (not_le.2 hunit)

theorem eq_of_char_eq (hx : resolve t p = .ok x) (hy : resolve t q = .ok y)
    (h : x.char = y.char) : p = q := by
  apply Position.eq_of_not_lt
  · intro hlt
    exact absurd h (char_lt_char hlt hx hy).ne
  · intro hlt
    exact absurd h (char_lt_char hlt hy hx).ne'

/-- An accepted position is at a character that stands behind a part of the content of its line. -/
theorem not_insidePair_of_resolve (hx : resolve t p = .ok x) : ¬ InsidePair t x.char := by
  obtain ⟨l, a, hl, ha, -, rfl⟩ := resolve_eq_ok.1 hx
  exact not_insidePair hl ha

theorem resolve_of_take (hl : (lines t)[p.line.toNat]? = some l) (ha : a <+: content l)
    (hp : p.character.toNat = unitLength a) (ht : t.take i = before t p.line.toNat ++ a) :
    resolve t p = .ok (ends (t.take i)) := by
  rw [ht]
  exact resolve_eq_ok.2 ⟨l, a, hl, ha, hp.symm, rfl⟩

/-- The position of a byte is the line of its character, and the code units in front of it there. -/
theorem ofByte?_of_take (h : b ≤ byteLength t)
    (ht : t.take (charsWithin Char.utf8Size t b) =
      before t (lineOf (lines t) (charsWithin Char.utf8Size t b)) ++ a) :
    ofByte? t b = some ⟨.ofNat (lineOf (lines t) (charsWithin Char.utf8Size t b)),
      .ofNat (unitLength a)⟩ := by
  rw [ofByte?_of_le h, take_charsBefore, ht]
  simp only [unitLength, weight_append, Nat.add_sub_cancel_left]

theorem charsWithin_byteLength_take (h : i ≤ t.length) :
    charsWithin Char.utf8Size t (byteLength (t.take i)) = i :=
  charsWithin_weight_take (fun c => c.utf8Size_pos) h

/-- The byte of an accepted position has that position. -/
theorem ofByte?_of_resolve (hx : resolve t p = .ok x) : ofByte? t x.byte = some p := by
  obtain ⟨l, a, hl, ha, hp, rfl⟩ := resolve_eq_ok.1 hx
  obtain ⟨w, u, hlw, -, hw⟩ := line_split hl
  have hfront : before t p.line.toNat ++ a <+: t :=
    ((List.prefix_append_right_inj _).2 ha).trans (prefix_before_append_content hl)
  have htake := List.prefix_iff_eq_take.1 hfront
  have hchar : charsWithin Char.utf8Size t (byteLength (before t p.line.toNat ++ a)) =
      (before t p.line.toNat ++ a).length := by
    conv_lhs => rw [htake]
    exact charsWithin_byteLength_take hfront.length_le
  have hend : a.length < l.length ∨ p.line.toNat + 1 = (lines t).length := by
    rcases hw with ⟨-, hw⟩ | ⟨hlast, -⟩
    · left
      have hpos := List.length_pos_iff.2 hw.ne_nil
      have hlen := ha.length_le
      rw [hlw, List.length_append]
      omega
    · exact .inr hlast
  have hline : lineOf (lines t) (before t p.line.toNat ++ a).length = p.line.toNat := by
    rw [List.length_append]
    exact lineOf_charsBefore_add hl hend
  have hbyte : byteLength (before t p.line.toNat ++ a) ≤ byteLength t := weight_le_weight hfront
  have hplace := ofByte?_of_take (a := a) hbyte (by rw [hchar, hline, ← htake])
  rw [hchar, hline, hp] at hplace
  simpa [ends] using hplace

/-- In a text that fits, the position of a byte is not cut. -/
theorem exists_ofByte? (hf : Fits t) (h : b ≤ (bytes t).length) :
    ∃ p l a, ofByte? t b = some p ∧
      p.line.toNat = lineOf (lines t) (charsWithin Char.utf8Size t b) ∧
      p.character.toNat = unitLength a ∧ (lines t)[p.line.toNat]? = some l ∧
      t.take (charsWithin Char.utf8Size t b) = before t p.line.toNat ++ a ∧
      (a <+: content l ∧ ¬ InsidePair t (charsWithin Char.utf8Size t b) ∨
        l = content l ++ ['\r', '\n'] ∧ a = content l ++ ['\r'] ∧
          InsidePair t (charsWithin Char.utf8Size t b)) := by
  rw [length_bytes] at h
  obtain ⟨l, a, hl, ha, ht, hcases⟩ := exists_place (charsWithin_le_length (w := Char.utf8Size) t b)
  have hline : (UInt32.ofNat (lineOf (lines t) (charsWithin Char.utf8Size t b))).toNat =
      lineOf (lines t) (charsWithin Char.utf8Size t b) :=
    UInt32.toNat_ofNat_of_lt' ((lt_lineCount hl).trans hf.lineCount_lt)
  have hunits : unitLength a < UInt32.size := by
    have hfits := hf.length_lt l (List.mem_of_getElem? hl)
    rw [length_units] at hfits
    exact (weight_le_weight ha).trans_lt hfits
  refine ⟨_, l, a, ofByte?_of_take h ht, hline, UInt32.toNat_ofNat_of_lt' hunits, ?_, ?_, hcases⟩
  · rw [hline]
    exact hl
  · rw [hline]
    exact ht

/-- In a text that fits, every place that is not inside a pair has a position. -/
theorem exists_resolve (hf : Fits t) (hi : i ≤ t.length) (hpair : ¬ InsidePair t i) :
    ∃ p x, resolve t p = .ok x ∧ x.char = i := by
  have hb : byteLength (t.take i) ≤ (bytes t).length := by
    rw [length_bytes]
    exact weight_take_le t i
  obtain ⟨p, l, a, -, -, hp, hl, ht, hcases⟩ := exists_ofByte? hf hb
  rw [charsWithin_byteLength_take hi] at ht hcases
  rcases hcases with ⟨ha, -⟩ | ⟨-, -, hinside⟩
  · refine ⟨p, _, resolve_of_take hl ha hp ht, ?_⟩
    rw [ends, List.length_take, Nat.min_eq_left hi]
  · exact absurd hinside hpair

theorem le_of_ofByte? (hp : ofByte? t b = some p) : b ≤ (bytes t).length := by
  rw [length_bytes]
  by_contra h
  simp [ofByte?, lineOfByte?, charOf?, h] at hp

theorem ofByte?_mono (hf : Fits t) {b' : Nat} (hb : b ≤ b') (hp : ofByte? t b = some p)
    (hq : ofByte? t b' = some q) : ¬ q < p := by
  obtain ⟨p₁, l, a, hp₁, hpl, hpc, -, hpt, -⟩ := exists_ofByte? hf (le_of_ofByte? hp)
  obtain ⟨q₁, m, c, hq₁, hql, hqc, -, hqt, -⟩ := exists_ofByte? hf (le_of_ofByte? hq)
  obtain rfl : p₁ = p := Option.some.inj (hp₁.symm.trans hp)
  obtain rfl : q₁ = q := Option.some.inj (hq₁.symm.trans hq)
  have hchars := charsWithin_mono (w := Char.utf8Size) t hb
  have hlines := lineOf_mono (lines t) hchars
  rw [← hpl, ← hql] at hlines
  rw [Position.lt_iff_toNat]
  rintro (hlt | ⟨heq, hlt⟩)
  · omega
  · have hunits := weight_take_mono (w := unitSize) t hchars
    rw [hpt, hqt, heq, weight_append, weight_append] at hunits
    simp only [unitLength] at hpc hqc
    omega

end Positions

/-- **Positions and offsets correspond.** The accepted positions of a text stand for the characters
that are not the feed of a pair, each for one, and in the same order; the byte of a position has
that position. Any byte has the position of its character. Within a pair that is the one behind the
content of the line and its return, which is refused. Positions of later bytes are no earlier. -/
theorem places_correspond (t : Text) (hf : Fits t) :
    (∀ p q x y, p < q → resolve t p = .ok x → resolve t q = .ok y → x.char < y.char) ∧
    (∀ p x, resolve t p = .ok x → x.char ≤ t.length ∧ ¬ InsidePair t x.char) ∧
    (∀ i ≤ t.length, ¬ InsidePair t i → ∃! p, ∃ x, resolve t p = .ok x ∧ x.char = i) ∧
    (∀ p x, resolve t p = .ok x → ofByte? t x.byte = some p) ∧
    (∀ b ≤ (bytes t).length, ∃ i p, Owns t b i ∧ ofByte? t b = some p ∧
      (¬ InsidePair t i → ∃ x, resolve t p = .ok x ∧ x.byte = (bytes (t.take i)).length) ∧
      (InsidePair t i → ∃ l, (lines t)[p.line.toNat]? = some (l ++ ['\r', '\n']) ∧ Unbroken l ∧
        t.take i = before t p.line.toNat ++ (l ++ ['\r']) ∧
        p.character.toNat = (units l).length + 1 ∧
        resolve t p = .error (.characterOutOfBounds (units l).length))) ∧
    ∀ b b' p q, b ≤ b' → ofByte? t b = some p → ofByte? t b' = some q → ¬ q < p := by
  refine ⟨?_, ?_, ?_, ?_, ?_, ?_⟩
  · intro p q x y h hx hy
    exact char_lt_char h hx hy
  · intro p x hx
    exact ⟨char_le_length hx, not_insidePair_of_resolve hx⟩
  · intro i hi hpair
    obtain ⟨p, x, hx, rfl⟩ := exists_resolve hf hi hpair
    refine ⟨p, ⟨x, hx, rfl⟩, ?_⟩
    rintro q ⟨y, hy, hyx⟩
    exact eq_of_char_eq hy hx hyx
  · intro p x hx
    exact ofByte?_of_resolve hx
  · intro b hb
    obtain ⟨p, l, a, hp, -, hpc, hl, ht, hcases⟩ := exists_ofByte? hf hb
    refine ⟨_, p, owns_charsWithin hb, hp, ?_, ?_⟩
    · intro hpair
      rcases hcases with ⟨ha, -⟩ | ⟨-, -, hinside⟩
      · refine ⟨_, resolve_of_take hl ha hpc ht, ?_⟩
        rw [ends, length_bytes]
      · exact absurd hinside hpair
    · intro hpair
      rcases hcases with ⟨-, hout⟩ | ⟨hc, rfl, -⟩
      · exact absurd hpair hout
      · have hchar : p.character.toNat = unitLength (content l) + 1 := by
          rw [hpc]
          simp only [unitLength, weight_append]
          rfl
        refine ⟨content l, by rw [← hc]; exact hl, unbroken_content l, ht, ?_, ?_⟩
        · rw [length_units, hchar]
        · rw [length_units]
          refine (resolve_eq_characterOutOfBounds hl).2 ?_
          omega
  · intro b b' p q hb hp hq
    exact ofByte?_mono hf hb hp hq

/-- A pair of surrogates in front of a pair of breaks. -/
def smile : Text := ['a', '😀', '\r', '\n']

theorem places_correspond_smile : Fits smile ∧ ofByte? smile 5 = some ⟨0, 3⟩ ∧
    ofByte? smile 6 = some ⟨0, 4⟩ ∧
    resolve smile ⟨0, 4⟩ = .error (.characterOutOfBounds (units ['a', '😀']).length) := by
  have hf : Fits smile := ⟨by decide, by decide⟩
  have hpair : InsidePair smile 3 := ⟨['a', '😀'], [], rfl, rfl⟩
  have hreturn : resolve smile ⟨0, 3⟩ = .ok ⟨2, 5, 3⟩ := by rfl
  have hfeed : ofByte? smile 6 = some ⟨0, 4⟩ := by decide
  obtain ⟨-, -, -, hback, hbytes, -⟩ := places_correspond smile hf
  obtain ⟨i, p, howns, hp, -, hinside⟩ := hbytes 6 (by decide)
  have howner : ∀ i < 4, (bytes (smile.take i)).length ≤ 6 →
      6 < (bytes (smile.take (i + 1))).length → i = 3 := by decide
  have hend : 6 ≠ (bytes smile).length := by decide
  obtain rfl : i = 3 := by
    rcases howns with ⟨hi, hle, hlt⟩ | ⟨-, h⟩
    · exact howner i hi hle hlt
    · exact absurd h hend
  obtain rfl : (⟨0, 4⟩ : Position) = p := Option.some.inj (hfeed.symm.trans hp)
  obtain ⟨l, hl, -, -, -, herror⟩ := hinside hpair
  obtain rfl : l = ['a', '😀'] := by
    have hline : (lines smile)[0]? = some (['a', '😀'] ++ ['\r', '\n']) := by decide
    exact List.append_cancel_right (Option.some.inj (hl.symm.trans hline))
  exact ⟨hf, hback _ _ hreturn, hp, herror⟩

end Text
end DocSync
