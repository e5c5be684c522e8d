import ProverLink.Proofs.Checks
import ProverLink.Proofs.Erasure

/-!
# Superseded checks have no influence

The lines that a session takes in are numbered. If some of them are struck out, all of which are
progress or failures of a superseded check, the run goes on as before: each step ends in the same
way and shows the same, and the registries differ in pending text only.
-/

namespace ProverLink

/-! ### Striking out lines of a text -/

/-- A text without the characters of some lines, line breaks included. The text starts in the line
with the given number. -/
def strike (struck : Nat → Bool) : Nat → List Char → List Char
  | _, [] => []
  | n, c :: rest =>
    let kept := strike struck (if c = '\n' then n + 1 else n) rest
    if struck n then kept else c :: kept

/-- The lines that are not struck out. The first one has the given number. -/
def keep (struck : Nat → Bool) : Nat → List (List Char) → List (List Char)
  | _, [] => []
  | n, line :: rest =>
    if struck n then keep struck (n + 1) rest else line :: keep struck (n + 1) rest

lemma strike_append {struck : Nat → Bool} {n : Nat} {xs : List Char} (h : '\n' ∉ xs)
    (ys : List Char) :
    strike struck n (xs ++ ys) = (if struck n then [] else xs) ++ strike struck n ys := by
  induction xs with
  | nil => simp
  | cons c rest ih =>
    rw [List.mem_cons, not_or] at h
    rw [List.cons_append, strike, if_neg (Ne.symm h.1), ih h.2]
    cases struck n <;> rfl

namespace LineBuffer

lemma length_split (cs : List Char) : (split cs).1.length = cs.count '\n' := by
  induction cs with
  | nil => rfl
  | cons c rest ih =>
    by_cases hc : c = '\n'
    · subst hc
      rw [split_newline, List.count_cons_self, List.length_cons, ih]
    · rw [split_cons_of_ne hc, List.count_cons_of_ne hc, List.length_modifyHead, ih]

/-- The lines of a text from which lines are struck out are the lines that are kept. -/
lemma split_strike (struck : Nat → Bool) (n : Nat) (cs : List Char) :
    split (strike struck n cs)
      = (keep struck n (split cs).1,
          if struck (n + (split cs).1.length) then [] else (split cs).2) := by
  induction cs generalizing n with
  | nil => cases hn : struck n <;> simp [strike, keep, hn]
  | cons c rest ih =>
    rw [strike]
    by_cases hc : c = '\n'
    · subst hc
      have hlength : n + ((split rest).1.length + 1) = n + 1 + (split rest).1.length := by omega
      rw [if_pos rfl, split_newline, keep, List.length_cons, hlength]
      cases hn : struck n with
      | true => simpa using ih (n + 1)
      | false => simp [split_newline, ih (n + 1)]
    · rw [if_neg hc, split_cons_of_ne hc, List.length_modifyHead]
      cases hn : struck n with
      | true =>
        rw [if_pos rfl, ih n]
        cases hl : (split rest).1 with
        | nil => simp [keep, hn]
        | cons l ls => simp [keep, hn]
      | false =>
        rw [if_neg (by simp), split_cons_of_ne hc, ih n]
        cases hl : (split rest).1 with
        | nil => simp [keep, hn]
        | cons l ls => simp [keep, hn]

lemma feed_eq (b : LineBuffer) (chunk : List Char) :
    b.feed chunk
      = ((split (b.pending ++ chunk)).1, { pending := (split (b.pending ++ chunk)).2 }) := rfl

/-- A buffer that is empty inside a line that is struck out, and takes in a text without it. -/
lemma feed_strike {b : LineBuffer} (h : '\n' ∉ b.pending) (struck : Nat → Bool) (n : Nat)
    (text : List Char) :
    (if struck n then {} else b : LineBuffer).feed (strike struck n text)
      = (keep struck n (b.feed text).1,
          if struck (n + text.count '\n') then {} else (b.feed text).2) := by
  have htext : (if struck n then {} else b : LineBuffer).pending ++ strike struck n text
      = strike struck n (b.pending ++ text) := by
    rw [strike_append h]
    cases struck n <;> rfl
  have hcount : (b.pending ++ text).count '\n' = text.count '\n' := by
    rw [List.count_append, List.count_eq_zero.2 h, Nat.zero_add]
  rw [feed_eq, feed_eq, htext, split_strike, length_split, hcount]
  cases struck (n + text.count '\n') <;> rfl

lemma flush_strike (b : LineBuffer) (struck : Nat → Bool) (n : Nat) :
    (if struck n then {} else b : LineBuffer).flush = (keep struck n b.flush.1, {}) := by
  simp only [flush]
  cases hn : struck n <;> cases hp : b.pending <;> simp [keep, hn, hp]

end LineBuffer

/-! ### Lines of a superseded check -/

/-- Whether a message reports progress or a failure. -/
def Message.isReport (m : Message) : Bool :=
  match m.body with
  | .progress _ => true
  | .failure _ => true
  | _ => false

namespace Session

lemma map_unit_map {α β : Type} (x : Except Fault α) (g : α → β) :
    (x.map g).map (fun _ => ()) = x.map fun _ => () := by
  cases x <;> rfl

variable [Limits]

/-- Whether a line is progress or a failure of a query before a given check. -/
def isSupersededLine (check : Int) (line : List Char) : Bool :=
  (Message.ofLine? line).any fun m => m.isReport && m.precedes check

lemma finding_of_superseded {check : Int} {line : List Char}
    (h : isSupersededLine check line = true) : finding check line = .ok .nothing := by
  obtain ⟨m, hm, hboth⟩ := (Option.any_eq_true _ _).1 h
  rw [Bool.and_eq_true] at hboth
  rw [Message.ofLine?] at hm
  rw [finding]
  split at hm
  · cases hm
  · rename_i hblank
    rw [if_neg hblank]
    cases hparse : Message.parse line with
    | error e => simp [hparse, Except.toOption] at hm
    | ok m' =>
      simp only [hparse, Except.toOption, Option.some.injEq] at hm
      subst hm
      simp [Message.finding, hboth.2]

/-- Lines of a superseded check can be struck out. -/
lemma dispatchLines_keep {struck : Nat → Bool} {n : Nat} {lines : List (List Char)} {s : Session}
    (h : ∀ k line, lines[k]? = some line → struck (n + k) = true →
      isSupersededLine s.checkQuery line = true) :
    ((dispatchLines (keep struck n lines)).run s).state = ((dispatchLines lines).run s).state ∧
      visible ((dispatchLines (keep struck n lines)).run s).trace
        = visible ((dispatchLines lines).run s).trace ∧
      ((dispatchLines (keep struck n lines)).run s).result.map (fun _ => ())
        = ((dispatchLines lines).run s).result.map fun _ => () := by
  induction lines generalizing n s with
  | nil => exact ⟨rfl, rfl, rfl⟩
  | cons line rest ih =>
    have hrest : ∀ t : Session, t.checkQuery = s.checkQuery → ∀ k l, rest[k]? = some l →
        struck (n + 1 + k) = true → isSupersededLine t.checkQuery l = true := by
      intro t ht k l hl hstruck
      rw [ht]
      exact h (k + 1) l hl (by rwa [← Nat.add_assoc, Nat.add_right_comm])
    have hline := reacts_dispatchLine line s
    rw [keep]
    cases hn : struck n with
    | true =>
      -- only one of the two reads this line, and it neither changes nor shows anything
      have hf := finding_of_superseded (h 0 line rfl hn)
      have hstate : ((dispatchLine line).run s).state = s := by
        rw [hline.state, hf]
        simp [Except.toOption, Finding.diagnostics]
      have hvisible : visible ((dispatchLine line).run s).trace = [] := by
        rw [hline.visible, hf]
        rfl
      obtain ⟨hs, htrace, hresult⟩ := ih (hrest s rfl)
      rw [if_pos rfl, run_dispatchLines_cons_ok hf, hstate]
      refine ⟨hs, by simpa [hvisible] using htrace, ?_⟩
      dsimp only
      rw [map_unit_map, hresult]
    | false =>
      rw [if_neg (by simp)]
      cases hf : finding s.checkQuery line with
      | error f =>
        rw [run_dispatchLines_cons_error hf, run_dispatchLines_cons_error hf]
        exact ⟨rfl, rfl, rfl⟩
      | ok g =>
        obtain ⟨hs, htrace, hresult⟩ := ih (hrest _ (checkQuery_dispatchLine line s))
        rw [run_dispatchLines_cons_ok hf, run_dispatchLines_cons_ok hf]
        refine ⟨hs, by simp [htrace], ?_⟩
        dsimp only
        rw [map_unit_map, map_unit_map, hresult]

/-- Lines that are acted upon, while another text is pending. -/
lemma dispatchLines_keep_withLines {struck : Nat → Bool} {n : Nat} {lines : List (List Char)}
    {s : Session}
    (h : ∀ k line, lines[k]? = some line → struck (n + k) = true →
      isSupersededLine s.checkQuery line = true)
    (b b' : LineBuffer) :
    (((dispatchLines (keep struck n lines)).run (s.withLines b)).state).withLines b'
        = ((dispatchLines lines).run s).state.withLines b' ∧
      visible ((dispatchLines (keep struck n lines)).run (s.withLines b)).trace
        = visible ((dispatchLines lines).run s).trace ∧
      ((dispatchLines (keep struck n lines)).run (s.withLines b)).result.map (fun _ => ())
        = ((dispatchLines lines).run s).result.map fun _ => () := by
  obtain ⟨hstate, htrace, hresult⟩ := dispatchLines_keep h
  rw [commutes_dispatchLines b (keep struck n lines) s]
  exact ⟨by rw [← hstate]; rfl, htrace, hresult⟩

/-- A session takes in a text from which lines of a superseded check are struck out. -/
lemma feed_strike {struck : Nat → Bool} {n : Nat} {s : Session} {text : List Char}
    (hpending : '\n' ∉ s.lines.pending)
    (h : ∀ k line, (s.lines.feed text).1[k]? = some line → struck (n + k) = true →
      isSupersededLine s.checkQuery line = true) :
    ((feed (strike struck n text)).run (s.eraseIf (struck n))).state
        = ((feed text).run s).state.eraseIf (struck (n + text.count '\n')) ∧
      visible ((feed (strike struck n text)).run (s.eraseIf (struck n))).trace
        = visible ((feed text).run s).trace ∧
      ((feed (strike struck n text)).run (s.eraseIf (struck n))).result.map (fun _ => ())
        = ((feed text).run s).result.map fun _ => () := by
  have hfeed : (s.eraseIf (struck n)).lines.feed (strike struck n text) = _ :=
    LineBuffer.feed_strike hpending struck n text
  rw [run_feed, run_feed, hfeed]
  exact dispatchLines_keep_withLines h _ _

/-- The same at the end of the output. -/
lemma finish_strike {struck : Nat → Bool} {n : Nat} {s : Session}
    (h : ∀ k line, s.lines.flush.1[k]? = some line → struck (n + k) = true →
      isSupersededLine s.checkQuery line = true) :
    (finish.run (s.eraseIf (struck n))).state = (finish.run s).state.eraseIf (struck n) ∧
      visible (finish.run (s.eraseIf (struck n))).trace = visible (finish.run s).trace ∧
      (finish.run (s.eraseIf (struck n))).result.map (fun _ => ())
        = (finish.run s).result.map fun _ => () := by
  have hflush : (s.eraseIf (struck n)).lines.flush = _ := LineBuffer.flush_strike s.lines struck n
  rw [run_finish, run_finish, hflush]
  obtain ⟨hstate, htrace, hresult⟩ := dispatchLines_keep_withLines h (s.eraseIf (struck n)).lines {}
  refine ⟨hstate.trans ?_, htrace, hresult⟩
  cases struck n <;> rfl

end Session

/-! ### Runs in which lines are struck out -/

namespace Bridge

open Registry

/-- The lines that a session in a slot completes in a step. -/
def Step.completed (id : Nat) (s : Session) : Step → List (List Char)
  | .output j text => if j = id then (s.lines.feed text).1 else []
  | .exit j _ => if j = id then s.lines.flush.1 else []
  | _ => []

/-- The numbers of the lines that the slots have come to, after a step. -/
def Step.tally (r : Registry) (count : Nat → Nat) : Step → Nat → Nat
  | .output id text =>
    if isOpen r id then Function.update count id (count id + text.count '\n') else count
  | _ => count

/-- A step with some lines struck out of the text that it delivers. -/
def Step.strike (struck : Nat → Nat → Bool) (r : Registry) (count : Nat → Nat) : Step → Step
  | .output id text =>
    .output id (if isOpen r id then ProverLink.strike (struck id) (count id) text else text)
  | st => st

/-- Steps with some lines struck out, given by slot and number. -/
def strikeOut [Limits] (struck : Nat → Nat → Bool) : Registry → (Nat → Nat) → List Step → List Step
  | _, _, [] => []
  | r, count, st :: rest =>
    st.strike struck r count :: strikeOut struck (st.act.run r).state (st.tally r count) rest

/-- Whether all lines that are struck out belong to a superseded check when they are completed. -/
def AllSuperseded [Limits] (struck : Nat → Nat → Bool) : Registry → (Nat → Nat) → List Step → Prop
  | _, _, [] => True
  | r, count, st :: rest =>
    (∀ id s, r.session? id = some s → s.closed = false → ∀ k line,
      (st.completed id s)[k]? = some line → struck id (count id + k) = true →
        Session.isSupersededLine s.checkQuery line = true) ∧
    AllSuperseded struck (st.act.run r).state (st.tally r count) rest

/-- What remains of an outcome without the log and without pending text. -/
def essence {α : Type} (o : Outcome Registry α) : Outcome Registry α :=
  { result := o.result, state := o.state.eraseLines fun _ => true, trace := visible o.trace }

/-- Two outcomes that differ in the log, and in the pending text of some slots. -/
structure Agrees {α : Type} (erased : Nat → Bool) (o o' : Outcome Registry α) : Prop where
  state : o'.state = o.state.eraseLines erased
  visible : visible o'.trace = ProverLink.visible o.trace
  result : o'.result = o.result

lemma Agrees.essence_eq {α : Type} {erased : Nat → Bool} {o o' : Outcome Registry α}
    (h : Agrees erased o o') : essence o' = essence o := by
  rw [essence, essence, h.result, h.visible, h.state, eraseLines_eraseLines]

lemma Agrees.map {α β : Type} {erased : Nat → Bool} {act act' : Act Registry α} {r r' : Registry}
    (h : Agrees erased (act.run r) (act'.run r')) (g : α → β) :
    Agrees erased ((g <$> act).run r) ((g <$> act').run r') := by
  rw [Act.run_map, Act.run_map]
  exact ⟨h.state, h.visible, by rw [h.result]⟩

lemma agrees_of_commutes {α : Type} {erased : Nat → Bool} {act : Act Registry α}
    (h : Act.Commutes (eraseLines erased) act) (r : Registry) :
    Agrees erased (act.run r) (act.run (r.eraseLines erased)) := by
  rw [h r]
  exact ⟨rfl, rfl, rfl⟩

/-- Whatever two acts on a session differ in, what follows does not look at it. -/
lemma agrees_onSession {erased erased' : Nat → Bool} {id : Nat} {r : Registry} {s : Session}
    {act act' : Act Session (List Message)} (hs : r.session? id = some s)
    (herased : ∀ j, j ≠ id → erased' j = erased j)
    (hstate : (act'.run (s.eraseIf (erased id))).state = (act.run s).state.eraseIf (erased' id))
    (hvisible : visible (act'.run (s.eraseIf (erased id))).trace = visible (act.run s).trace)
    (hresult : (act'.run (s.eraseIf (erased id))).result.map (fun _ => ())
      = (act.run s).result.map fun _ => ())
    {next : Act Registry Unit} (hnext : Act.Commutes (eraseLines erased') next) :
    Agrees erased' ((onSession id [] act >>= fun _ => next).run r)
      ((onSession id [] act' >>= fun _ => next).run (r.eraseLines erased)) := by
  have hs' : (r.eraseLines erased).session? id = some (s.eraseIf (erased id)) := by
    rw [session?_eraseLines, hs]
    rfl
  have hrun := run_onSession hs [] act
  have hrun' := run_onSession hs' [] act'
  rw [hstate, updateSession_const_congr herased, updateSession_const_eraseLines] at hrun'
  -- the two may return different messages, but one fails just when the other does
  cases hr : (act.run s).result with
  | error f =>
    have hr' : (act'.run (s.eraseIf (erased id))).result = .error f := by
      cases hact : (act'.run (s.eraseIf (erased id))).result with
      | error f' => simpa [hr, hact, Except.map] using hresult
      | ok ms => simp [hr, hact, Except.map] at hresult
    rw [Act.run_bind_error (f := f) _ _ _ (by rw [hrun, hr]),
      Act.run_bind_error (f := f) _ _ _ (by rw [hrun', hr']), hrun, hrun']
    exact ⟨rfl, hvisible, rfl⟩
  | ok ms =>
    have hr' : ∃ ms', (act'.run (s.eraseIf (erased id))).result = .ok ms' := by
      cases hact : (act'.run (s.eraseIf (erased id))).result with
      | error f' => simp [hr, hact, Except.map] at hresult
      | ok ms' => exact ⟨ms', rfl⟩
    obtain ⟨ms', hr'⟩ := hr'
    rw [Act.run_bind_ok (a := ms) _ _ _ (by rw [hrun, hr]),
      Act.run_bind_ok (a := ms') _ _ _ (by rw [hrun', hr']), hrun, hrun']
    have htail := agrees_of_commutes hnext (r.updateSession id fun _ => (act.run s).state)
    exact ⟨htail.state, by simp [hvisible, htail.visible], htail.result⟩

lemma isOpen_eraseLines (erased : Nat → Bool) (r : Registry) (id : Nat) :
    isOpen (r.eraseLines erased) id = isOpen r id := by
  rw [isOpen, isOpen, session?_eraseLines]
  cases r.session? id <;> rfl

section Steps

variable [Limits]

lemma agrees_output {struck : Nat → Nat → Bool} {count : Nat → Nat} {r : Registry} (htidy : r.Tidy)
    {id : Nat} {text : List Char}
    (h : ∀ s, r.session? id = some s → s.closed = false → ∀ k line,
      (s.lines.feed text).1[k]? = some line → struck id (count id + k) = true →
        Session.isSupersededLine s.checkQuery line = true) :
    Agrees (fun j => struck j ((Step.output id text).tally r count j))
      ((handleOutput id text).run r)
      ((handleOutput id (if isOpen r id then strike (struck id) (count id) text else text)).run
        (r.eraseLines fun j => struck j (count j))) := by
  rw [handleOutput, Act.run_get_bind, handleOutput, Act.run_get_bind, isOpen_eraseLines, Step.tally]
  split
  · rename_i hopen
    obtain ⟨s, hs, hclosed⟩ := (isOpen_iff r id).1 hopen
    obtain ⟨hstate, hvisible, hresult⟩ := Session.feed_strike (htidy id s hs) (h s hs hclosed)
    refine agrees_onSession hs (fun j hj => ?_) ?_ hvisible hresult (.pure ())
    · rw [Function.update_of_ne hj]
    · rw [Function.update_self]
      exact hstate
  · exact agrees_of_commutes (.pure ()) r

lemma agrees_exit {struck : Nat → Nat → Bool} {count : Nat → Nat} {r : Registry} {id : Nat}
    (code : Option Int)
    (h : ∀ s, r.session? id = some s → s.closed = false → ∀ k line,
      s.lines.flush.1[k]? = some line → struck id (count id + k) = true →
        Session.isSupersededLine s.checkQuery line = true) :
    Agrees (fun j => struck j (count j)) ((handleExit id code).run r)
      ((handleExit id code).run (r.eraseLines fun j => struck j (count j))) := by
  have huri : ((r.eraseLines fun j => struck j (count j)).session? id).map (·.uri)
      = (r.session? id).map (·.uri) := by
    rw [session?_eraseLines, Option.map_map]
    rfl
  rw [handleExit, Act.run_get_bind, Act.run_get_bind, isOpen_eraseLines, huri]
  split
  · rename_i hopen
    obtain ⟨s, hs, hclosed⟩ := (isOpen_iff r id).1 hopen
    obtain ⟨hstate, hvisible, hresult⟩ := Session.finish_strike (h s hs hclosed)
    refine agrees_onSession hs (fun _ _ => rfl) hstate hvisible hresult ?_
    refine .bind (commutes_discard _ id) fun gone => ?_
    cases gone with
    | true => exact .bind (commutes_transportError _ _ _) fun _ => .pure ()
    | false => exact .pure ()
  · exact agrees_of_commutes (.pure ()) r

/-- One step with lines struck out agrees with the step itself. -/
lemma agrees_step {struck : Nat → Nat → Bool} {count : Nat → Nat} {r : Registry} (htidy : r.Tidy)
    {st : Step}
    (h : ∀ id s, r.session? id = some s → s.closed = false → ∀ k line,
      (st.completed id s)[k]? = some line → struck id (count id + k) = true →
        Session.isSupersededLine s.checkQuery line = true) :
    Agrees (fun j => struck j (st.tally r count j)) (st.act.run r)
      ((st.strike struck r count).act.run (r.eraseLines fun j => struck j (count j))) := by
  cases st with
  | output id text =>
    refine .map (agrees_output htidy fun s hs hclosed k line hline => ?_) _
    exact h id s hs hclosed k line (by rwa [Step.completed, if_pos rfl])
  | exit id code =>
    refine .map (agrees_exit code fun s hs hclosed k line hline => ?_) _
    exact h id s hs hclosed k line (by rwa [Step.completed, if_pos rfl])
  | _ => exact agrees_of_commutes (commutes_step _ rfl) r

/-- A run with lines struck out agrees with the run itself, step by step. -/
lemma essence_outcomes_strikeOut {struck : Nat → Nat → Bool} {steps : List Step} {r : Registry}
    {count : Nat → Nat} (hserves : r.Serves) (htidy : r.Tidy)
    (h : AllSuperseded struck r count steps) :
    (outcomes (strikeOut struck r count steps)
        (r.eraseLines fun j => struck j (count j))).map essence
      = (outcomes steps r).map essence := by
  induction steps generalizing r count with
  | nil => rfl
  | cons st rest ih =>
    have hcourse := course_step hserves st
    have hagrees := agrees_step htidy h.1
    rw [strikeOut, outcomes, outcomes, List.map_cons, List.map_cons, hagrees.essence_eq,
      hagrees.state, ih (hcourse.serves hserves) (hcourse.tidy htidy) h.2]

/-- Superseded checks have no influence, and the last check is never taken for one. In every state
of a run, each session keeps the number of the last check that was written to it. That number is not
above the number of its last query, never falls, and a message with the id of that check is not
stale. If lines are struck out of the output, and each of them belongs to a superseded check when it
is completed, all steps end and show the same, and the states differ in pending text only. -/
theorem superseded_checks_have_no_influence (config : Config) (steps : List Step) :
    (∀ id s, (after steps { config }).session? id = some s →
      LastCheck (writes id (trace steps { config })) s.checkQuery ∧
      s.checkQuery ≤ s.lastQuery ∧
      (∀ more s', (after (steps ++ more) { config }).session? id = some s' →
        s.checkQuery ≤ s'.checkQuery) ∧
      ∀ (n : Nat) (text kind : String) (m : Message), s.checkQuery = n →
        m.queryId = ((Query.fullBuffer text).stamp n).id.map QueryId.text →
          (Session.isStale kind m).run s = { result := .ok false, state := s }) ∧
    ∀ struck : Nat → Nat → Bool, AllSuperseded struck { config } (fun _ => 0) steps →
      (outcomes (strikeOut struck { config } (fun _ => 0) steps) { config }).map essence
        = (outcomes steps { config }).map essence := by
  have hstart := standing_start config
  obtain ⟨hserves, hnumbered, _⟩ := numbered_run steps hstart.serves (numbered_start config)
  refine ⟨fun id s hs => ⟨?_, hnumbered.bounded id s hs, fun more s' hs' => ?_, ?_⟩,
    fun struck h => ?_⟩
  · have hlast := hnumbered.last id s hs
    rwa [List.nil_append, writes_visible] at hlast
  · rw [after_append] at hs'
    obtain ⟨_, _, hgrows⟩ := numbered_run more hserves hnumbered
    obtain ⟨t, ht, hle⟩ := hgrows id s hs
    rw [hs', Option.some.injEq] at ht
    exact ht ▸ hle
  · intro n text kind m hn hm
    exact Session.run_isStale_of_not_precedes kind (hn ▸ Message.precedes_stamped hm)
  · exact essence_outcomes_strikeOut hstart.serves (fun _ _ hs => nomatch hs) h

end Steps

/-- A failure of the query with the given number, as a line. -/
def failureLine (query : Char) : List Char :=
  "\x7b\"kind\":\"response\",\"status\":\"failure\",\"query-id\":\"".toList ++
    query :: "\"\x7d\n".toList

/-- A document is opened and changed. Then the failure of its first check arrives in two pieces, and
that of its second check with the latter of them. -/
def lateFailure : List Step :=
  [.openDocument "a" "x" (some {}), .changeDocument "a" "y",
   .output 0 ((failureLine '2').take 9),
   .output 0 ((failureLine '2').drop 9 ++ failureLine '3')]

/-- The late failure can be struck out of both pieces. -/
theorem superseded_checks_of_lateFailure :
    let struck : Nat → Nat → Bool := fun id n => id = 0 && n = 0
    AllSuperseded struck { config := {} } (fun _ => 0) lateFailure ∧
      (outcomes (strikeOut struck { config := {} } (fun _ => 0) lateFailure)
          { config := {} }).map essence
        = (outcomes lateFailure { config := {} }).map essence := by
  intro struck
  have hbefore : ((after (lateFailure.take 2) { config := {} }).session? 0).map (·.lines)
      = some {} := by
    decide +kernel
  have hbetween : ((after (lateFailure.take 3) { config := {} }).session? 0).map
      (fun s => (s.checkQuery, s.lines)) = some (3, { pending := (failureLine '2').take 9 }) := by
    decide +kernel
  have hnone : (LineBuffer.feed {} ((failureLine '2').take 9)).1 = [] := by decide +kernel
  have hlines : (LineBuffer.feed { pending := (failureLine '2').take 9 }
      ((failureLine '2').drop 9 ++ failureLine '3')).1[0]? = some (failureLine '2').dropLast := by
    decide +kernel
  have hstale : Session.isSupersededLine 3 (failureLine '2').dropLast = true := by decide +kernel
  have hfirst : ∀ id n k, struck id (n + k) = true → id = 0 ∧ k = 0 := by
    intro id n k h
    simp only [struck, Bool.and_eq_true, decide_eq_true_eq] at h
    omega
  have hall : AllSuperseded struck { config := {} } (fun _ => 0) lateFailure := by
    refine ⟨?_, ?_, ?_, ?_, trivial⟩
    · intro id s _ _ k line hline
      simp [Step.completed] at hline
    · intro id s _ _ k line hline
      simp [Step.completed] at hline
    · intro id s hs _ k line hline hstruck
      obtain ⟨rfl, rfl⟩ := hfirst id _ k hstruck
      have hs' : (after (lateFailure.take 2) { config := {} }).session? 0 = some s := hs
      rw [hs', Option.map_some, Option.some.injEq] at hbefore
      rw [Step.completed, if_pos rfl, hbefore, hnone] at hline
      cases hline
    · intro id s hs _ k line hline hstruck
      obtain ⟨rfl, rfl⟩ := hfirst id _ k hstruck
      have hs' : (after (lateFailure.take 3) { config := {} }).session? 0 = some s := hs
      rw [hs', Option.map_some, Option.some.injEq, Prod.mk.injEq] at hbetween
      rw [Step.completed, if_pos rfl, hbetween.2, hlines, Option.some.injEq] at hline
      rw [hbetween.1, ← hline]
      exact hstale
  exact ⟨hall, (superseded_checks_have_no_influence {} lateFailure).2 struck hall⟩

end Bridge

end ProverLink
