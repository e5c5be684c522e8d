import ProverLink.Proofs.Decoding
import ProverLink.Proofs.Lines
import ProverLink.Proofs.Registry
import ProverLink.Registry.Threads

/-!
# Framing

The output of a checker arrives in chunks that are cut anywhere: inside a character, inside a line,
at a line break. Two things are carried over a cut, the beginning of a character and the beginning
of a line. Neither makes a difference: what a session does with the chunks is what it does with the
segments between the line breaks of the whole output.
-/

namespace ProverLink

namespace Session

@[simp] lemma withLines_withLines (b b' : LineBuffer) (s : Session) :
    withLines b (withLines b' s) = withLines b s := rfl

variable [Limits]

/-- Takes in a text, unless it is empty. -/
def hear (text : List Char) : Act Session (List Message) :=
  if text.isEmpty then pure [] else feed text

/-- Takes in texts one after the other, and then acts upon what is left. -/
def receive : List (List Char) → Act Session (List Message)
  | [] => finish
  | text :: rest => do
    let ms ← hear text
    let ns ← receive rest
    pure (ms ++ ns)

/-! ### Texts -/

lemma run_hear {s : Session} (hs : '\n' ∉ s.lines.pending) (text : List Char) :
    (hear text).run s
      = { (dispatchLines (s.lines.feed text).1).run s with
          state := withLines (s.lines.feed text).2
            ((dispatchLines (s.lines.feed text).1).run s).state } := by
  cases text with
  | nil => simp [hear, LineBuffer.feed, LineBuffer.split_of_notMem hs, withLines]
  | cons c rest => exact run_feed (c :: rest) s

/-- At the end the pending text counts as the last segment. -/
lemma run_finish_segment {s : Session} (hs : '\n' ∉ s.lines.pending) :
    finish.run s
      = { (dispatchLines (s.lines.pending.splitOn '\n')).run s with
          state := withLines {} ((dispatchLines (s.lines.pending.splitOn '\n')).run s).state } := by
  rw [run_finish, LineBuffer.splitOn_newline, LineBuffer.split_of_notMem hs, LineBuffer.flush]
  cases hp : s.lines.pending with
  | nil => rfl
  | cons c rest => rfl

/-- Taking in texts is acting upon the segments of all of them together. -/
lemma run_receive {texts : List (List Char)} {s : Session} (hs : '\n' ∉ s.lines.pending)
    (hok : ∀ line ∈ (s.lines.pending ++ texts.flatten).splitOn '\n',
      ∃ g, finding s.checkQuery line = .ok g) :
    (receive texts).run s
      = { (dispatchLines ((s.lines.pending ++ texts.flatten).splitOn '\n')).run s with
          state := withLines {}
            ((dispatchLines ((s.lines.pending ++ texts.flatten).splitOn '\n')).run s).state } := by
  induction texts generalizing s with
  | nil =>
    rw [List.flatten_nil, List.append_nil]
    exact run_finish_segment hs
  | cons text rest ih =>
    rw [List.flatten_cons, ← List.append_assoc, LineBuffer.splitOn_append] at hok ⊢
    have hhear := run_hear hs text
    have hleft := LineBuffer.newline_notMem_rest (s.lines.pending ++ text)
    simp only [LineBuffer.feed] at hhear
    generalize LineBuffer.split (s.lines.pending ++ text) = parts at hok hhear hleft ⊢
    obtain ⟨whole, left⟩ := parts
    have hfirst := result_dispatchLines fun line hl => hok line (List.mem_append_left _ hl)
    -- the rest is received by the session behind the first text, with what that text left over
    set t := withLines { pending := left } ((dispatchLines whole).run s).state
    have hrest : ∀ line ∈ (left ++ rest.flatten).splitOn '\n',
        ∃ g, finding t.checkQuery line = .ok g := by
      intro line hl
      have ht : t.checkQuery = s.checkQuery := checkQuery_dispatchLines whole s
      rw [ht]
      exact hok line (List.mem_append_right _ hl)
    have hreceive := @ih t hleft hrest
    rw [show t.lines.pending = left from rfl, commutes_dispatchLines] at hreceive
    rw [receive, Act.run_bind_ok _ _ _ (by rw [hhear]; exact hfirst), hhear, dispatchLines_append,
      Act.run_bind_ok _ _ _ hfirst]
    simp only [bind_pure_comp, Act.run_map, hreceive, withLines_withLines, t]

end Session

/-! ### Bytes -/

/-- Hands what is heard to the session in the slot, and does nothing else. -/
def Listener.attentive [Limits] : Listener where
  output id text := do
    let _ ← Registry.onSession id [] (Session.feed text)
  exit id _ := do
    let _ ← Registry.onSession id [] Session.finish

namespace Registry

open Session Utf8

lemma session?_set {r : Registry} {id : Nat} {s : Session} (hs : r.session? id = some s)
    (t : Session) : (r.updateSession id fun _ => t).session? id = some t := by
  rw [session?_updateSession, if_pos rfl, hs]
  rfl

/-- What a session becomes later counts, not what it was in between. -/
lemma updateJob_updateSession (r : Registry) (id : Nat) (t u : Session) :
    ((r.updateSession id fun _ => t).updateJob id fun j => { j with session := u, reader := none })
      = r.updateJob id fun j => { j with session := u, reader := none } := by
  rw [updateSession, updateJob_updateJob]
  rfl

variable [Limits]

lemma run_hear_attentive {r : Registry} {id : Nat} {s : Session} (hs : r.session? id = some s)
    (text : List Char) :
    (Registry.hear .attentive id text).run r
      = { result := ((Session.hear text).run s).result.map fun _ => (),
          state := r.updateSession id fun _ => ((Session.hear text).run s).state,
          trace := ((Session.hear text).run s).trace } := by
  cases text with
  | nil => simp [Registry.hear, Session.hear, updateSession_const_self hs, Except.map]
  | cons c rest =>
    simp [Registry.hear, Session.hear, Listener.attentive, run_onSession hs]

lemma run_leave_attentive {r : Registry} {id : Nat} {s : Session} (hs : r.session? id = some s)
    (code : Option Int) {ms : List Message} (hok : (Session.finish.run s).result = .ok ms) :
    (leave .attentive id code).run r
      = { result := .ok (),
          state := r.updateJob id fun j =>
            { j with session := (Session.finish.run s).state, reader := none },
          trace := (Session.finish.run s).trace } := by
  have hs' : (r.updateJob id fun j => { j with reader := none }).session? id = some s := by
    rw [session?_updateJob, if_pos rfl]
    exact hs
  simp [leave, Listener.attentive, run_onSession hs', hok, Except.map, updateSession,
    updateJob_updateJob, Function.comp_def]

/-- Reading chunks up to the end of the pipe is receiving the texts in them. -/
lemma run_consume_attentive {chunks : List (List UInt8)} {d : Decoder} {r : Registry} {id : Nat}
    {s : Session} (hs : r.session? id = some s) (uri : String) {ms : List Message}
    (hok : ((receive (d.texts chunks)).run s).result = .ok ms) :
    (consume .attentive id uri d (chunks.map .bytes ++ [.finish])).run r
      = { result := .ok (),
          state := r.updateJob id fun j =>
            { j with session := ((receive (d.texts chunks)).run s).state, reader := none },
          trace := ((receive (d.texts chunks)).run s).trace } := by
  induction chunks generalizing d r s ms with
  | nil =>
    obtain ⟨ms₁, h₁, h₂⟩ := Act.exists_of_bind_ok hok
    obtain ⟨ms₂, h₂, -⟩ := Act.exists_of_bind_ok h₂
    have hhear := run_hear_attentive hs d.finish
    rw [h₁, Except.map] at hhear
    have hs₁ := session?_set hs ((Session.hear d.finish).run s).state
    simp only [Decoder.texts, receive, Act.run_bind_ok _ _ _ h₁, List.map_nil, List.nil_append,
      consume, conclude, Act.run_attempt_bind, hhear, Act.run_get_bind,
      run_leave_attentive hs₁ _ h₂, updateJob_updateSession]
    simp
  | cons chunk rest ih =>
    obtain ⟨ms₁, h₁, h₂⟩ := Act.exists_of_bind_ok hok
    obtain ⟨ms₂, h₂, -⟩ := Act.exists_of_bind_ok h₂
    have hhear := run_hear_attentive hs (d.feed chunk).1
    rw [h₁, Except.map] at hhear
    have hs₁ := session?_set hs ((Session.hear (d.feed chunk).1).run s).state
    simp only [Decoder.texts, receive, Act.run_bind_ok _ _ _ h₁, Act.run_bind_ok _ _ _ h₂,
      List.map_cons, List.cons_append, consume, Act.run_attempt_bind, hhear, ih hs₁ h₂,
      updateJob_updateSession]
    simp

end Registry

namespace Session

open Registry

/-- What a session does with its output does not depend on the cuts. The messages, the trace and the
session at the end are those of the segments between line breaks of the output as a whole, each
acted upon once and in order, and no text is left pending. -/
theorem reading_ignores_cuts [Limits] {r : Registry} {id : Nat} {s : Session}
    (hs : r.session? id = some s) (hfresh : s.lines.pending = []) (chunks : List (List UInt8))
    (hok : ∀ line ∈ (Utf8.decode chunks.flatten).splitOn '\n',
      ∃ m, ((dispatchLine line).run s).result = .ok m) :
    let segments := (Utf8.decode chunks.flatten).splitOn '\n'
    let whole := (dispatchLines segments).run s
    let final := { whole.state with lines := {} }
    whole.result = .ok (segments.filterMap Message.ofLine?) ∧
      (receive (Utf8.Decoder.clean.texts chunks)).run s = { whole with state := final } ∧
      (consume .attentive id s.uri .clean (chunks.map .bytes ++ [.finish])).run r
        = { result := .ok (),
            state := r.updateJob id fun j => { j with session := final, reader := none },
            trace := whole.trace } ∧
      ∀ others : List (List UInt8), others.flatten = chunks.flatten →
        (receive (Utf8.Decoder.clean.texts others)).run s
            = (receive (Utf8.Decoder.clean.texts chunks)).run s ∧
          (consume .attentive id s.uri .clean (others.map .bytes ++ [.finish])).run r
            = (consume .attentive id s.uri .clean (chunks.map .bytes ++ [.finish])).run r := by
  intro segments whole final
  have hfound : ∀ line ∈ segments, ∃ g, finding s.checkQuery line = .ok g := by
    intro line hl
    obtain ⟨m, hm⟩ := hok line hl
    rw [result_dispatchLine] at hm
    cases hf : finding s.checkQuery line with
    | error f => simp [hf, Except.map] at hm
    | ok g => exact ⟨g, rfl⟩
  have hresult : whole.result = .ok (segments.filterMap Message.ofLine?) :=
    result_dispatchLines hfound
  -- every cutting comes down to the segments of the whole
  have hreceive : ∀ others : List (List UInt8), others.flatten = chunks.flatten →
      (receive (Utf8.Decoder.clean.texts others)).run s = { whole with state := final } := by
    intro others ho
    have htext : s.lines.pending ++ (Utf8.Decoder.clean.texts others).flatten
        = Utf8.decode chunks.flatten := by
      rw [hfresh, List.nil_append, Utf8.Decoder.flatten_texts, ho]
      rfl
    have hrun := @run_receive _ (Utf8.Decoder.clean.texts others) s (by simp [hfresh])
    rw [htext] at hrun
    exact hrun hfound
  have hconsume : ∀ others : List (List UInt8), others.flatten = chunks.flatten →
      (consume .attentive id s.uri .clean (others.map .bytes ++ [.finish])).run r
        = { result := .ok (),
            state := r.updateJob id fun j => { j with session := final, reader := none },
            trace := whole.trace } := by
    intro others ho
    have h := hreceive others ho
    rw [run_consume_attentive hs s.uri (by rw [h]; exact hresult), h]
  refine ⟨hresult, hreceive chunks rfl, hconsume chunks rfl, fun others ho => ⟨?_, ?_⟩⟩
  · rw [hreceive others ho, hreceive chunks rfl]
  · rw [hconsume others ho, hconsume chunks rfl]

/-- The same five bytes, cut inside a character and inside a line, or at the line break. -/
theorem reading_ignores_cut_inside_character :
    let s : Session := { uri := "file:///a.fst" }
    let r : Registry :=
      { slots := [{ child := {}, job := some { session := s, file := "a.fst" } }] }
    (consume .attentive 0 s.uri .clean
        ([[0xC3], [0xA9, 0x0A, 0x7B], [0x7D]].map .bytes ++ [.finish])).run r
      = (consume .attentive 0 s.uri .clean
        ([[0xC3, 0xA9], [0x0A], [0x7B, 0x7D]].map .bytes ++ [.finish])).run r := by
  intro s r
  have hsegments : (Utf8.decode [0xC3, 0xA9, 0x0A, 0x7B, 0x7D]).splitOn '\n'
      = [['é'], ['\x7b', '\x7d']] := by
    show (Utf8.Decoder.clean.resume _).splitOn '\n' = _
    rw [← Utf8.Decoder.feed_finish, LineBuffer.splitOn_newline]
    decide
  have hok : ∀ line ∈ (Utf8.decode [0xC3, 0xA9, 0x0A, 0x7B, 0x7D]).splitOn '\n',
      ∃ m, ((dispatchLine line).run s).result = .ok m := by
    rw [hsegments]
    refine List.forall_mem_cons.2 ⟨⟨_, rfl⟩, List.forall_mem_cons.2 ⟨⟨_, rfl⟩, by simp⟩⟩
  exact ((@reading_ignores_cuts _ r 0 s rfl rfl [[0xC3, 0xA9], [0x0A], [0x7B, 0x7D]] hok).2.2.2
    [[0xC3], [0xA9, 0x0A, 0x7B], [0x7D]] rfl).2

end Session

end ProverLink
