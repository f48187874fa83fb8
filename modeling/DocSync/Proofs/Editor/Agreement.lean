import DocSync.Proofs.Editor.Address
import DocSync.Proofs.Session.Run
import Mathlib.Data.List.Forall2

/-! # The editor and the server agree

`Store.mirror` is the editor whose buffers are the units of the documents of a store. An action that
this editor may take is an operation that the store carries out, and the mirror of the store after
it is the editor after it. So a whole session of an editor leaves the server with the texts of the
editor, and the server has nothing to report.
-/

namespace DocSync
open Editor

/-- The document of an open buffer, seen by an editor. -/
def Document.buffer (d : Document) : Buffer := ⟨d.languageId, d.version, Text.units d.text⟩

/-- The editor with the documents of a store. -/
def Store.mirror (s : Store) : Editor := fun u => (s.get? u).map Document.buffer

namespace Editor

section Changes

theorem change?_units (t : Text) (c : ContentChange) :
    change? (Text.units t) c = (Text.change t c.toChange).toOption.map Text.units := by
  obtain ⟨range, _, text⟩ := c
  cases range with
  | none => rfl
  | some r => exact replace?_units t text.toList r

/-- A batch goes through on the editor's side exactly if it does on the server's side. -/
theorem foldlM_change?_units (t : Text) (cs : List ContentChange) :
    cs.foldlM change? (Text.units t) =
      (Text.changes t (cs.map (·.toChange))).toOption.map Text.units := by
  induction cs generalizing t with
  | nil => rfl
  | cons c cs ih =>
    rw [List.foldlM_cons, change?_units, List.map_cons, Text.changes_cons]
    cases Text.change t c.toChange with
    | error e => rfl
    | ok u => exact ih u

end Changes

section Actions
variable {s : Store}

theorem mirror_put (s : Store) (u : Uri) (d : Document) :
    (s.put u d).mirror = s.mirror.set u (some d.buffer) := by
  funext v
  simp only [Store.mirror, Store.get?_put, set, eq_comm (a := u)]
  split <;> rfl

theorem mirror_erase (s : Store) (u : Uri) : (s.erase u).mirror = s.mirror.set u .none := by
  funext v
  simp only [Store.mirror, Store.get?_erase, set, eq_comm (a := u)]
  split <;> rfl

theorem mirror_empty (p : VersionPolicy) : (Store.empty p).mirror = Editor.none := rfl

/-- The store operation that an action is, for the server. -/
def Action.operation (c : Config) : Action → Store.Operation
  | .opens p => match c.reopen with
    | .reject => .openNew p.document.uri p.document.toDocument
    | .replace => .reopen p.document.uri p.document.toDocument
  | .changes p => .change p.document.uri p.document.version (p.changes.map (·.toChange))
  | .closes p => .close p.document.uri

/-- An action that the mirror of a store may take is carried out by the store. -/
theorem exists_step_of_act? {c : Config} {a : Action} {e : Editor}
    (h : act? s.policy s.mirror a = some e) :
    ∃ s', s.step (a.operation c) = (s', .done) ∧ s'.policy = s.policy ∧ s'.mirror = e := by
  cases a with
  | opens p =>
    obtain ⟨d⟩ := p
    simp only [act?, Option.ite_none_right_eq_some, Option.some.injEq] at h
    obtain ⟨hnew, rfl⟩ := h
    have hfree : ¬ (s.get? d.uri).isSome = true := by
      simpa [Store.mirror] using hnew
    refine ⟨s.put d.uri d.toDocument, ?_, rfl, mirror_put s d.uri d.toDocument⟩
    simp only [Action.operation]
    cases c.reopen with
    | reject =>
      rw [Store.step, Store.run_openNew, if_neg hfree]
      rfl
    | replace => rfl
  | closes p =>
    obtain ⟨d⟩ := p
    simp only [act?, Option.ite_none_right_eq_some, Option.some.injEq] at h
    obtain ⟨hold, rfl⟩ := h
    have hopen : (s.get? d.uri).isSome = true := by
      simpa [Store.mirror] using hold
    refine ⟨s.erase d.uri, ?_, rfl, mirror_erase s d.uri⟩
    rw [Action.operation, Store.step, Store.run_close, if_pos hopen]
    rfl
  | changes p =>
    obtain ⟨d, cs⟩ := p
    cases hd : s.get? d.uri with
    | none => simp [act?, Store.mirror, hd] at h
    | some doc =>
      simp only [act?, Store.mirror, hd, Option.map_some, Option.bind_eq_bind, Option.bind_some,
        Document.buffer, foldlM_change?_units] at h
      split at h
      · cases h
      · next hv =>
        cases hcs : Text.changes doc.text (cs.map (·.toChange)) with
        | error c => simp [hcs, Except.toOption] at h
        | ok t =>
          simp only [hcs, Except.toOption, Option.map_some, Option.bind_some,
            Option.some.injEq] at h
          have hfresh : ¬ (s.policy = .strict ∧ d.version ≤ doc.version) := by
            rintro ⟨hs, hle⟩
            exact hv ⟨hs, Int32.not_lt.2 hle⟩
          refine ⟨s.put d.uri { doc with text := t, version := d.version }, ?_, rfl, ?_⟩
          · rw [Action.operation, Store.step, Store.run_change_of_ok hd hfresh hcs]
            rfl
          · rw [mirror_put, ← h]
            rfl

theorem Action.Tells.operation? {a : Action} {m : Message} (h : a.Tells m) (c : Config) :
    ∃ n, m = .notification n ∧ n.method ≠ Method.exit ∧
      Server.operation? c n = some (a.operation c) := by
  have hopen : Method.didOpen ≠ Method.exit := by decide
  have hclose : Method.didClose ≠ Method.exit ∧ Method.didClose ≠ Method.didOpen := by decide
  have hchange : Method.didChange ≠ Method.exit ∧ Method.didChange ≠ Method.didOpen ∧
    Method.didChange ≠ Method.didClose := by decide
  cases h with
  | opens h =>
    refine ⟨_, rfl, hopen, ?_⟩
    rw [Server.operation?, if_pos rfl, h]
    rfl
  | closes h =>
    refine ⟨_, rfl, hclose.1, ?_⟩
    rw [Server.operation?, if_neg hclose.2, if_pos rfl, h]
    rfl
  | changes h =>
    refine ⟨_, rfl, hchange.1, ?_⟩
    rw [Server.operation?, if_neg hchange.2.1, if_neg hchange.2.2, if_pos rfl, h]
    rfl

end Actions

section Sessions

/-- The server holds the documents of an editor, and has nothing else to do. -/
structure Follows (s : Server) (e : Editor) : Prop where
  idle : s.Idle
  policy : s.documents.policy = s.config.versionPolicy
  running : s.isShutDown = false
  mirror : s.documents.mirror = e

theorem follows_start (c : Config) : Follows (.start c) none :=
  ⟨Server.idle_start c, rfl, rfl, mirror_empty c.versionPolicy⟩

/-- The server follows an action without a word. -/
theorem Follows.step {s : Server} {e e' : Editor} {a : Action} {m : Message} (h : Follows s e)
    (hm : a.Tells m) (ha : act? s.config.versionPolicy e a = some e') :
    ∃ s', (Session.serving s).step m = (.serving s', []) ∧ s'.config = s.config ∧
      Follows s' e' := by
  rw [← h.policy, ← h.mirror] at ha
  obtain ⟨documents, hs, hp, he⟩ := exists_step_of_act? (c := s.config) ha
  obtain ⟨n, rfl, hn, hop⟩ := hm.operation? s.config
  refine ⟨{ s with documents }, ?_, rfl, ⟨h.idle.inFlight, h.idle.jobs, h.idle.finished⟩,
    hp.trans h.policy, h.running, he⟩
  rw [Session.step_serving_notification h.idle hn, Server.notify, hop]
  simp only [Server.carryOut, hs, Server.report]

theorem Follows.run {s : Server} {e e' : Editor} {as : List Action} {ms : List Message}
    (h : Follows s e) (hms : List.Forall₂ Action.Tells as ms)
    (ha : actAll? s.config.versionPolicy e as = some e') :
    ∃ s', (Session.serving s).run ms = (.serving s', List.replicate ms.length []) ∧
      Follows s' e' := by
  induction hms generalizing s e with
  | nil =>
    obtain rfl : e = e' := Option.some.inj ha
    exact ⟨s, rfl, h⟩
  | @cons a m as ms hm hms ih =>
    rw [actAll?, List.foldlM_cons] at ha
    obtain ⟨e₁, ha₁, ha⟩ := Option.bind_eq_some_iff.1 ha
    obtain ⟨s₁, hs₁, hc, h₁⟩ := h.step hm ha₁
    obtain ⟨s₂, hs₂, h₂⟩ := ih h₁ (by rw [hc]; exact ha)
    refine ⟨s₂, ?_, h₂⟩
    rw [Session.run_cons, hs₁, hs₂]
    rfl

/-- What an editor expects to hear when it asks for the text of a document. -/
def Expects (e : Editor) (id : RequestId) (u : Uri) (x : Response) : Prop :=
  match e u with
  | .none => x = .failed id (-32602) ("document not open: " ++ u.text)
  | some b => ∃ text : String, Text.units text.toList = b.units ∧
      x = .ok id (.object [("languageId", .string b.languageId), ("text", .string text),
        ("uri", .string u.text), ("version", .int b.version.toInt)])

theorem Follows.reply {s : Server} {e : Editor} (h : Follows s e) (id : RequestId) {u : Uri}
    {j : Json} (hj : Wire.read j = .ok (⟨u⟩ : DocumentId)) :
    Expects e id u (s.reply ⟨id, Method.documentText, j⟩) := by
  have hread : (Wire.decode Method.documentText j : Except Malformed DocumentId) = .ok ⟨u⟩ := by
    rw [Wire.decode, hj]
  have hreply := (Server.reply_documentText (r := ⟨id, Method.documentText, j⟩) h.running rfl
    hread).trans (Server.ofResult_documentText s.documents id ⟨u⟩)
  rw [hreply, Expects, ← h.mirror, Store.mirror]
  cases s.documents.get? u with
  | none => rfl
  | some d =>
    refine ⟨String.ofList d.text, ?_, rfl⟩
    rw [String.toList_ofList]
    rfl

/-- **Agreement over whole sessions.** Whatever an editor tells the server of its actions, the
server says nothing to it. After any number of them, a request for the text of a document is
answered with the language, the version and the units that the editor has, or with the refusal of a
document that the editor has not open. -/
theorem run_tells_agrees (c : Config) {as : List Action} {ms : List Message} {e : Editor}
    (hms : List.Forall₂ Action.Tells as ms) (he : actAll? c.versionPolicy none as = some e) :
    ((Session.serve c).run ms).2 = List.replicate ms.length [] ∧
    ∀ n, ∃ e', actAll? c.versionPolicy none (as.take n) = some e' ∧
      ∀ (id : RequestId) (u : Uri) (j : Json), Wire.read j = .ok (⟨u⟩ : DocumentId) →
        ∃ x, (((Session.serve c).run (ms.take n)).1.step
          (.request ⟨id, Method.documentText, j⟩)).2 = [.response x] ∧ e'.Expects id u x := by
  constructor
  · obtain ⟨s, hs, -⟩ := (follows_start c).run hms he
    rw [Session.serve, hs]
  · intro n
    have htake := he
    rw [← List.take_append_drop n as, actAll?, List.foldlM_append] at htake
    obtain ⟨e', he', -⟩ := Option.bind_eq_some_iff.1 htake
    obtain ⟨s, hs, h⟩ := (follows_start c).run (List.forall₂_take n hms) he'
    refine ⟨e', he', fun id u j hj => ⟨_, ?_, h.reply id hj⟩⟩
    rw [Session.serve, hs, Session.step_serving_request h.idle]

def note : Uri := ⟨"file:///note", by rfl⟩

/-- The batch cuts a return from its feed, and puts them together again the other way round. -/
def noteActions : List Action := [
  .opens ⟨⟨note, "hare", 1, "a😀\r\nb"⟩⟩,
  .changes ⟨⟨note, 2⟩, [⟨some ⟨⟨0, 3⟩, ⟨1, 0⟩⟩, .none, "\n"⟩,
    ⟨some ⟨⟨1, 0⟩, ⟨1, 1⟩⟩, .none, "\r"⟩]⟩]

def noteMessages : List Message := [
  .notification ⟨Method.didOpen, .object [("textDocument", .object [("languageId", .string "hare"),
    ("text", .string "a😀\r\nb"), ("uri", .string "file:///note"), ("version", .int 1)])]⟩,
  .notification ⟨Method.didChange, .array [.array [.string "file:///note", .int 2], .array [
    .array [.array [.array [.int 0, .int 3], .array [.int 1, .int 0]], .null, .string "\n"],
    .array [.array [.array [.int 1, .int 0], .array [.int 1, .int 1]], .null, .string "\r"]]]⟩]

theorem run_tells_agrees_note : ∃ e, actAll? .strict none noteActions = some e ∧
    e note = some ⟨"hare", 2, [97, 0xD83D, 0xDE00, 10, 13]⟩ ∧
    ((Session.serve ⟨.reject, .strict⟩).run noteMessages).2 = [[], []] ∧
    (((Session.serve ⟨.reject, .strict⟩).run noteMessages).1.step
      (.request ⟨.number 1, Method.documentText, .array [.string "file:///note"]⟩)).2 =
        [.response (.ok (.number 1) (.object [("languageId", .string "hare"),
          ("text", .string "a😀\n\r"), ("uri", .string "file:///note"), ("version", .int 2)]))] := by
  have hsome : (actAll? .strict none noteActions).isSome = true := by decide
  have hnote : (actAll? .strict none noteActions).bind (· note) =
      some ⟨"hare", 2, [97, 0xD83D, 0xDE00, 10, 13]⟩ := by decide
  obtain ⟨e, he⟩ := Option.isSome_iff_exists.1 hsome
  rw [he] at hnote
  have htells : List.Forall₂ Action.Tells noteActions noteMessages :=
    .cons (.opens rfl) (.cons (.changes rfl) .nil)
  obtain ⟨hsent, hask⟩ := run_tells_agrees ⟨.reject, .strict⟩ htells he
  obtain ⟨e', he', hx⟩ := hask 2
  obtain rfl : e = e' := Option.some.inj (he.symm.trans he')
  obtain ⟨x, hsaid, hx⟩ := hx (.number 1) note (.array [.string "file:///note"]) rfl
  rw [Option.bind_some] at hnote
  rw [Expects, hnote] at hx
  obtain ⟨text, hunits, rfl⟩ := hx
  have htext : text.toList = ['a', '😀', '\n', '\r'] :=
    units_injective (hunits.trans (by decide))
  obtain rfl : text = "a😀\n\r" := String.toList_inj.1 htext
  exact ⟨e, he, hnote, hsent, hsaid⟩

end Sessions

end Editor
end DocSync
