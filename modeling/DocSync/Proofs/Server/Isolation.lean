import DocSync.Proofs.Server.Interleaving
import Mathlib.Data.List.Count
import Mathlib.Data.List.Induction

/-! # Isolation of requests

A schedule takes its turns in any order. What is due to a request is given by the turns in front of
it alone, and no turn behind it changes that: a server that has come to where a schedule leads
(`Tracks`) has sent what is due to each request, or has it outstanding.
-/

namespace DocSync.Server

section History

/-- What the messages of a schedule have made of the server, but for the requests that it has still
to answer. -/
def told (c : Config) (ts : List Turn) : Server :=
  { start c with
    documents := Store.reached c.versionPolicy (ts.filterMap (Turn.operation? c))
    isShutDown := (ts.filterMap Turn.request?).any shutsDown }

/-- The answers to the requests of a schedule, in their order. Each is that of the server to which
the turns in front of its request have been told. -/
def due (c : Config) (ts : List Turn) : List Response :=
  (List.range ts.length).filterMap fun k =>
    (ts[k]?.bind Turn.request?).map (told c (ts.take k)).reply

/-- The ids of the requests of a schedule to which no response has been sent. -/
def unanswered (ts : List Turn) (sent : List Message) : List RequestId :=
  ((ts.filterMap Turn.request?).map (·.id)).diff ((responses sent).map (·.id))

/-- No request of a schedule has the id of one that is unanswered when it is received. -/
def Fresh (c : Config) (ts : List Turn) : Prop :=
  ∀ k r s sent, ts[k]? = some (.receive (.request r)) →
    (runTurns (ts.take k)).run (start c, []) = .ok () (s, sent) →
      r.id ∉ unanswered (ts.take k) sent

def answersTo (i : RequestId) (xs : List Response) : List Response := xs.filter (·.id = i)

theorem due_concat (c : Config) (ts : List Turn) (t : Turn) :
    due c (ts ++ [t]) = due c ts ++ (t.request?.map (told c ts).reply).toList := by
  have hinit : ∀ k ∈ List.range ts.length,
      (((ts ++ [t])[k]?.bind Turn.request?).map (told c ((ts ++ [t]).take k)).reply) =
        ((ts[k]?.bind Turn.request?).map (told c (ts.take k)).reply) := by
    intro k hk
    have hlt := List.mem_range.1 hk
    rw [List.getElem?_append_left hlt, List.take_append_of_le_length (Nat.le_of_lt hlt)]
  rw [due, List.length_append, List.length_singleton, List.range_succ, List.filterMap_append,
    List.filterMap_congr hinit]
  congr 1
  cases hr : t.request? <;> simp [hr]

theorem answersTo_append (i : RequestId) (xs ys : List Response) :
    answersTo i (xs ++ ys) = answersTo i xs ++ answersTo i ys := List.filter_append ..

/-- Where no two responses have one id, their order does not matter to any request. -/
theorem answersTo_perm {xs ys : List Response} (h : xs.Perm ys) (hxs : (xs.map (·.id)).Nodup)
    (i : RequestId) : answersTo i xs = answersTo i ys := by
  have hperm : (answersTo i xs).Perm (answersTo i ys) := h.filter _
  have hnodup : ((answersTo i xs).map (·.id)).Nodup := hxs.sublist (List.filter_sublist.map _)
  have hid : ∀ x ∈ answersTo i xs, x.id = i := by
    intro x hx
    simpa using (List.mem_filter.1 hx).2
  cases hx : answersTo i xs with
  | nil =>
    rw [hx] at hperm
    exact hperm.nil_eq
  | cons x rest =>
    cases rest with
    | nil =>
      rw [hx] at hperm
      exact List.singleton_perm.1 hperm
    | cons y rest =>
      rw [hx] at hnodup hid
      have hxy : x.id = y.id := (hid x (by simp)).trans (hid y (by simp)).symm
      simp [hxy] at hnodup

theorem length_answersTo (i : RequestId) (xs : List Response) :
    (answersTo i xs).length = (xs.map (·.id)).count i := by
  rw [answersTo, ← List.countP_eq_length_filter, List.count, List.countP_map]
  rfl

theorem ids_due (c : Config) (ts : List Turn) :
    (due c ts).map (·.id) = (ts.filterMap Turn.request?).map (·.id) := by
  induction ts using List.reverseRecOn with
  | nil => rfl
  | append_singleton ts t ih =>
    rw [due_concat, List.map_append, ih, List.filterMap_append, List.map_append]
    congr 1
    cases hr : t.request? <;> simp [hr, reply_id]

/-- A server that has come to where a schedule leads. -/
structure Tracks (c : Config) (ts : List Turn) (s : Server) (sent : List Message) : Prop where
  config : s.config = c
  documents : s.documents = (told c ts).documents
  isShutDown : s.isShutDown = (told c ts).isShutDown
  consistent : s.Consistent
  answers : ∀ i, answersTo i (responses sent) ++ answersTo i s.outstanding = answersTo i (due c ts)

variable {c : Config} {ts : List Turn} {s : Server} {sent : List Message}

theorem tracks_start (c : Config) : Tracks c [] (start c) [] where
  config := rfl
  documents := rfl
  isShutDown := rfl
  consistent := consistent_start c
  answers _ := rfl

theorem Tracks.perm_unanswered (h : Tracks c ts s sent) :
    (unanswered ts sent).Perm s.pending := by
  rw [List.perm_iff_count]
  intro i
  have hcount := congrArg List.length (h.answers i)
  rw [List.length_append, length_answersTo, length_answersTo, length_answersTo, ids_due,
    map_id_outstanding] at hcount
  rw [unanswered, List.count_diff]
  omega

theorem Tracks.accepts {t : Turn} (h : Tracks c ts s sent)
    (hrun : (runTurns ts).run (start c, []) = .ok () (s, sent)) (hf : Fresh c (ts ++ [t])) :
    s.Accepts t := by
  intro r hr
  have ht : t = .receive (.request r) := by
    unfold Turn.request? at hr
    split at hr <;> simp_all
  have hlast : (ts ++ [t])[ts.length]? = some (.receive (.request r)) := by simp [ht]
  have hnew := hf ts.length r s sent hlast
  rw [List.take_left] at hnew
  rw [h.consistent.perm.mem_iff, ← h.perm_unanswered.mem_iff]
  exact hnew hrun

theorem Tracks.next {t : Turn} (h : Tracks c ts s sent) (ht : s.Accepts t) :
    Tracks c (ts ++ [t]) (s.next t).1 (sent ++ (s.next t).2) := by
  obtain ⟨hconfig, hdocuments, hlatch⟩ := state_next ht
  rw [h.config] at hconfig hdocuments
  refine ⟨hconfig, ?_, ?_, h.consistent.next ht, ?_⟩
  · have hasked : [t].filterMap (Turn.operation? c) = (t.operation? c).toList := by
      cases ho : t.operation? c <;> simp [ho]
    rw [hdocuments, h.documents, told, told, List.filterMap_append, Store.reached_append, hasked]
  · rw [hlatch, h.isShutDown]
    cases hr : t.request? <;> simp [told, List.filterMap_append, hr]
  · intro i
    have hstep := answersTo_perm (h.consistent.perm_next ht) ?_ i
    · calc answersTo i (responses (sent ++ (s.next t).2)) ++ answersTo i (s.next t).1.outstanding
          = answersTo i (responses sent) ++
              answersTo i (responses (s.next t).2 ++ (s.next t).1.outstanding) := by
            rw [responses_append, answersTo_append, answersTo_append, List.append_assoc]
        _ = answersTo i (responses sent) ++
              answersTo i (s.outstanding ++ (t.request?.map s.reply).toList) := by rw [hstep]
        _ = answersTo i (due c ts) ++ answersTo i (t.request?.map s.reply).toList := by
            rw [answersTo_append, ← List.append_assoc, h.answers i]
        _ = answersTo i (due c (ts ++ [t])) := by
            rw [due_concat, answersTo_append, reply_congr h.documents h.isShutDown]
    · exact ((h.consistent.perm_next ht).map _).nodup_iff.2 (h.consistent.nodup_due ht)

theorem Fresh.init {t : Turn} (h : Fresh c (ts ++ [t])) : Fresh c ts := by
  intro k r s sent hk hrun
  have hlt : k < ts.length := (List.getElem?_eq_some_iff.1 hk).1
  have hinit := h k r s sent
  rw [List.getElem?_append_left hlt, List.take_append_of_le_length (Nat.le_of_lt hlt)] at hinit
  exact hinit hk hrun

theorem exists_tracks (h : Fresh c ts) :
    ∃ s sent, (runTurns ts).run (start c, []) = .ok () (s, sent) ∧ Tracks c ts s sent := by
  induction ts using List.reverseRecOn with
  | nil => exact ⟨_, _, rfl, tracks_start c⟩
  | append_singleton ts t ih =>
    obtain ⟨s, sent, hrun, hs⟩ := ih h.init
    exact ⟨_, _, run_runTurns_concat hrun t, hs.next (hs.accepts hrun h)⟩

end History

section Draining

/-- A turn that receives nothing. -/
def Turn.IsWork (t : Turn) : Prop := ∀ m, t ≠ .receive m

/-- Work alone finishes all jobs and sends all responses: each turn of it takes a job to its
response, or a response out. -/
theorem exists_drained (s : Server) (sent : List Message) :
    ∃ us s' more, (∀ u ∈ us, Turn.IsWork u) ∧ (runTurns us).run (s, sent) = .ok () (s', more) ∧
      s'.jobs = [] ∧ s'.finished = [] := by
  induction h : 2 * s.jobs.length + s.finished.length generalizing s sent with
  | zero =>
    have hjobs : s.jobs = [] := List.length_eq_zero_iff.1 (by omega)
    have hfinished : s.finished = [] := List.length_eq_zero_iff.1 (by omega)
    exact ⟨[], s, sent, by simp, rfl, hjobs, hfinished⟩
  | succ n ih =>
    obtain ⟨t, ht, hn⟩ : ∃ t, Turn.IsWork t ∧
        2 * (s.next t).1.jobs.length + (s.next t).1.finished.length = n := by
      by_cases hjobs : 0 < s.jobs.length
      · refine ⟨.finishJob 0, by simp [Turn.IsWork], ?_⟩
        simp only [next, finishJob, List.getElem?_eq_getElem hjobs, List.length_eraseIdx, hjobs,
          if_true, List.length_append, List.length_singleton]
        omega
      · refine ⟨.deliver, by simp [Turn.IsWork], ?_⟩
        cases hx : s.finished with
        | nil =>
          rw [hx, List.length_nil] at h
          omega
        | cons x xs =>
          rw [hx, List.length_cons] at h
          simp only [next, deliver, hx, respond]
          split <;> simp only <;> omega
    obtain ⟨us, s', more, hus, hrun, hdone⟩ := ih _ (sent ++ (s.next t).2) hn
    refine ⟨t :: us, s', more, ?_, ?_, hdone⟩
    · intro u hu
      rcases List.mem_cons.1 hu with rfl | hu
      · exact ht
      · exact hus u hu
    · rw [run_runTurns_cons]
      exact hrun

end Draining

/-- **Requests are isolated in every interleaving.** Whatever turns come in whatever order, as long
as no request takes the id of one that is unanswered, each request is sent the response that was due
when it was received, or that response is still outstanding. So those without a response are those
whose job or response is pending, each once, and work alone will answer them. What is due to a
request for a text is the document as the notifications in front of the request have left it. -/
theorem runTurns_isolated (c : Config) (ts : List Turn) (h : Fresh c ts) :
    (∀ k r p, ts[k]? = some (.receive (.request r)) → r.method = Method.documentText →
      (Wire.decode r.method r.params : Except Malformed DocumentId) = .ok p →
      (∀ q ∈ (ts.take k).filterMap Turn.request?, shutsDown q = false) →
      let documents := Store.reached c.versionPolicy ((ts.take k).filterMap (Turn.operation? c))
      (told c (ts.take k)).reply r = match documents.get? p.uri with
        | none => .failed r.id (-32602) ("document not open: " ++ p.uri.text)
        | some d => .ok r.id (.object [("languageId", .string d.languageId),
            ("text", .string (String.ofList d.text)), ("uri", .string p.uri.text),
            ("version", .int d.version.toInt)])) ∧
    ∃ s sent, (runTurns ts).run (start c, []) = .ok () (s, sent) ∧
      (∀ i, answersTo i (responses sent) ++ answersTo i s.outstanding = answersTo i (due c ts)) ∧
      s.pending.Nodup ∧ (unanswered ts sent).Perm s.pending ∧
      (s.jobs = [] → s.finished = [] →
        ∀ i, answersTo i (responses sent) = answersTo i (due c ts)) ∧
      ∃ us s' more, (∀ u ∈ us, Turn.IsWork u) ∧ (runTurns us).run (s, sent) = .ok () (s', more) ∧
        s'.jobs = [] ∧ s'.finished = [] := by
  constructor
  · intro k r p _ hm hp hq
    have hrunning : (told c (ts.take k)).isShutDown = false := by
      apply List.any_eq_false.2
      intro q hmem
      rw [hq q hmem]
      exact Bool.false_ne_true
    exact (reply_documentText hrunning hm hp).trans (ofResult_documentText _ _ _)
  · obtain ⟨s, sent, hrun, hs⟩ := exists_tracks h
    refine ⟨s, sent, hrun, hs.answers, ?_, hs.perm_unanswered, ?_, exists_drained s sent⟩
    · exact hs.consistent.perm.nodup_iff.1 hs.consistent.nodup
    · intro hjobs hfinished i
      have houtstanding : s.outstanding = [] := by simp [outstanding, hjobs, hfinished]
      rw [← hs.answers i, houtstanding]
      exact (List.append_nil _).symm

def page : Uri := ⟨"file:///page", by rfl⟩

def pageOpened : Notification :=
  ⟨Method.didOpen, .array [.array [.string "file:///page", .string "hare", .int 1, .string "a"]]⟩

def pageClosed : Notification := ⟨Method.didClose, .array [.array [.string "file:///page"]]⟩

def pageAsked : Request := ⟨.number 1, Method.documentText, .array [.string "file:///page"]⟩

/-- The document is closed before the job has run, and then asked for with the same id. -/
def pageTurns : List Turn := [.receive (.notification pageOpened), .receive (.request pageAsked),
  .receive (.notification pageClosed), .finishJob 0, .deliver, .receive (.request pageAsked)]

theorem runTurns_isolated_page : Fresh ⟨.reject, .strict⟩ pageTurns ∧
    ∃ s sent, (runTurns pageTurns).run (start ⟨.reject, .strict⟩, []) = .ok () (s, sent) ∧
      answersTo (.number 1) (responses sent) ++ answersTo (.number 1) s.outstanding =
        [.ok (.number 1) (.object [("languageId", .string "hare"), ("text", .string "a"),
            ("uri", .string "file:///page"), ("version", .int 1)]),
          .failed (.number 1) (-32602) "document not open: file:///page"] := by
  have hfresh : Fresh ⟨.reject, .strict⟩ pageTurns := by
    have hanswered : ∃ s sent, (runTurns (pageTurns.take 5)).run (start ⟨.reject, .strict⟩, []) =
        .ok () (s, sent) ∧ unanswered (pageTurns.take 5) sent = [] := ⟨_, _, rfl, rfl⟩
    obtain ⟨t, answered, hrun', hnone⟩ := hanswered
    intro k r s sent hk hrun
    match k with
    | 0 | 2 | 3 | 4 => cases hk
    | 1 =>
      have hnil : unanswered (pageTurns.take 1) sent = [] := List.nil_diff _
      simp [hnil]
    | 5 =>
      rw [hrun] at hrun'
      cases hrun'
      simp [hnone]
    | k + 6 => cases hk
  obtain ⟨-, s, sent, hrun, hanswers, -⟩ := runTurns_isolated ⟨.reject, .strict⟩ pageTurns hfresh
  refine ⟨hfresh, s, sent, hrun, ?_⟩
  rw [hanswers]
  rfl

end DocSync.Server
