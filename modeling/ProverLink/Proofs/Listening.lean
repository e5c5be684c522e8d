import ProverLink.Proofs.Acts
import ProverLink.Proofs.Trails
import ProverLink.Registry.Threads

/-!
# What a listener is told

In a turn the reader of standard output tells the listener the text of all that has arrived, in
pieces that are not empty. At the end of the pipe, at an error and at a fault of the listener it
leaves: the listener is told of the exit, once, and is told nothing behind it. What is left of a
character is told before that, unless the reader was broken off.
-/

namespace ProverLink

namespace Utf8.Decoder

/-- The texts that chunks of bytes give one after the other, while more may come. -/
def pieces : Decoder → List (List UInt8) → List (List Char)
  | _, [] => []
  | d, chunk :: rest => (d.feed chunk).1 :: pieces (d.feed chunk).2 rest

lemma flatten_pieces (d : Decoder) (chunks : List (List UInt8)) :
    (d.pieces chunks).flatten = (d.feed chunks.flatten).1 := by
  induction chunks generalizing d with
  | nil => rfl
  | cons chunk rest ih => rw [pieces, List.flatten_cons, ih, List.flatten_cons, feed_append]

end Utf8.Decoder

namespace Act

variable {σ α : Type} {act : α → Act σ Unit}

lemma each_append (xs ys : List α) :
    each act (xs ++ ys) = each act xs >>= fun _ => each act ys := by
  induction xs with
  | nil => rfl
  | cons x rest ih => rw [List.cons_append, each_cons, each_cons, ih, LawfulMonad.bind_assoc]

/-- Where acts one after the other end in a fault. -/
lemma exists_of_each_error {items : List α} {s : σ} {f : Fault}
    (h : ((each act items).run s).result = .error f) :
    ∃ done a later, items = done ++ a :: later ∧ ((each act done).run s).result = .ok () ∧
      ((act a).run ((each act done).run s).state).result = .error f ∧
      ((each act items).run s).state = ((act a).run ((each act done).run s).state).state := by
  induction items generalizing s with
  | nil => cases h
  | cons a rest ih =>
    cases ha : ((act a).run s).result with
    | error g =>
      rw [each_cons, run_bind_error _ _ _ ha] at h ⊢
      exact ⟨[], a, rest, rfl, rfl, ha.trans h, rfl⟩
    | ok _ =>
      rw [each_cons, run_bind_ok _ _ _ ha] at h ⊢
      obtain ⟨done, b, later, rfl, hdone, hb, hstate⟩ := ih h
      have hrun := run_bind_ok _ (fun _ => each act done) _ ha
      rw [← each_cons] at hrun
      refine ⟨a :: done, b, later, rfl, ?_, ?_, ?_⟩ <;> rw [hrun] <;> assumption

end Act

namespace Registry

open Utf8

/-- Whether what comes next ends the pipe in the usual way: with its end, or with an error that is
handled. -/
def concludes : List Arrival → Bool
  | .finish :: _ => true
  | .error (.other _) :: _ => false
  | .error _ :: _ => true
  | _ => false

/-- What the listener is told of some chunks and of what comes behind them. -/
def told (d : Decoder) (chunks : List (List UInt8)) (tail : List Arrival) : List (List Char) :=
  (d.pieces chunks ++
    if concludes tail then [(d.feed chunks.flatten).2.finish] else []).filter (!·.isEmpty)

/-! ### How a turn ends -/

/-- The reader waits for more. -/
structure Waits (id : Nat) (d : Decoder) (heard o : Outcome Registry Unit) : Prop where
  result : o.result = .ok ()
  state : o.state = heard.state.updateJob id fun j => { j with reader := some d }
  trace : visible o.trace = visible heard.trace

/-- The listener is told of the exit, and the reader is gone by then. -/
def leaving (l : Listener) (id : Nat) (code : Option Int) (r : Registry) : Outcome Registry Unit :=
  (l.exit id code).run (r.updateJob id fun j => { j with reader := none })

/-- The fault of a thread that ends with it. -/
def threadFaults : Except Fault Unit → List Effect
  | .ok () => []
  | .error f => [.threadFault f]

/-- Behind all that was heard the listener is told of the exit, and the turn is over. -/
structure Leaves (l : Listener) (id : Nat) (code : Option Int) (heard o : Outcome Registry Unit) :
    Prop where
  result : o.result = .ok ()
  state : o.state = (leaving l id code heard.state).state
  trace : visible o.trace = visible heard.trace ++ visible (leaving l id code heard.state).trace ++
    threadFaults (leaving l id code heard.state).result

/-- How a turn ends behind the texts that the listener heard. A fault of the listener and an error
that is not handled break the reader off. -/
structure TurnEnds (l : Listener) (id : Nat) (d : Decoder) (tail : List Arrival)
    (heard o : Outcome Registry Unit) : Prop where
  waits : heard.result = .ok () → tail = [] → Waits id d heard o
  concluded : heard.result = .ok () → concludes tail = true →
    Leaves l id ((heard.state.child? id).bind (·.code)) heard o
  broken : heard.result = .ok () → tail ≠ [] → concludes tail = false → Leaves l id none heard o
  faulty : ∀ f, heard.result = .error f → Leaves l id none heard o

/-! ### The steps of a reader -/

section Steps

variable (l : Listener) (id : Nat)

lemma hear_eq_each (text : List Char) :
    hear l id text = Act.each (l.output id) ([text].filter (!·.isEmpty)) := by
  cases text with
  | nil => rfl
  | cons c rest => exact (bind_pure (l.output id (c :: rest))).symm

lemma run_leave (code : Option Int) (r : Registry) :
    (leave l id code).run r
      = { result := .ok (), state := (leaving l id code r).state,
          trace := (leaving l id code r).trace ++ threadFaults (leaving l id code r).result } := by
  rw [leave, Act.run_modify_bind, Act.run_attempt_bind, ← leaving]
  cases hr : (leaving l id code r).result with
  | ok _ => rfl
  | error f => rfl

variable {l id}

lemma leaves_of_leave {code : Option Int} {heard o : Outcome Registry Unit}
    (hresult : o.result = .ok ()) (hstate : o.state = ((leave l id code).run heard.state).state)
    (htrace : visible o.trace
      = visible heard.trace ++ visible ((leave l id code).run heard.state).trace) :
    Leaves l id code heard o := by
  have hfaults : ∀ x, visible (threadFaults x) = threadFaults x := by rintro (f | _) <;> rfl
  rw [run_leave] at hstate htrace
  refine ⟨hresult, hstate, ?_⟩
  rw [htrace, visible_append, hfaults, List.append_assoc]

lemma leaves_breakOff {heard o : Outcome Registry Unit} {uri : String}
    (hresult : o.result = .ok ()) (hstate : o.state = ((breakOff l id uri).run heard.state).state)
    (htrace : visible o.trace
      = visible heard.trace ++ visible ((breakOff l id uri).run heard.state).trace) :
    Leaves l id none heard o := by
  rw [breakOff, Act.run_log_bind] at hstate htrace
  exact leaves_of_leave hresult hstate htrace

/-- The end of the pipe, behind the texts of all bytes. -/
lemma ends_conclude (uri : String) (d : Decoder) {tail : List Arrival}
    (htail : concludes tail = true) (r : Registry) :
    TurnEnds l id d tail ((hear l id d.finish).run r) ((conclude l id uri d).run r) := by
  have hne : tail ≠ [] := by rintro rfl; cases htail
  rw [conclude, Act.run_attempt_bind]
  refine ⟨fun _ h => absurd h hne, fun h _ => ?_, fun _ _ h => ?_, fun f h => ?_⟩
  · simp only [h, Act.run_get_bind]
    exact leaves_of_leave (by rw [run_leave]) rfl (visible_append ..)
  · cases htail.symm.trans h
  · simp only [h]
    exact leaves_breakOff (by rw [breakOff, Act.run_log_bind, run_leave]) rfl (visible_append ..)

/-- What is written to the log in between does not count. -/
lemma TurnEnds.of_visible {d : Decoder} {tail : List Arrival} {heard o o' : Outcome Registry Unit}
    (h : TurnEnds l id d tail heard o) (hresult : o'.result = o.result)
    (hstate : o'.state = o.state) (htrace : visible o'.trace = visible o.trace) :
    TurnEnds l id d tail heard o' where
  waits hok ht :=
    have hw := h.waits hok ht
    ⟨hresult.trans hw.result, hstate.trans hw.state, htrace.trans hw.trace⟩
  concluded hok ht :=
    have hl := h.concluded hok ht
    ⟨hresult.trans hl.result, hstate.trans hl.state, htrace.trans hl.trace⟩
  broken hok ht hc :=
    have hl := h.broken hok ht hc
    ⟨hresult.trans hl.result, hstate.trans hl.state, htrace.trans hl.trace⟩
  faulty f hf :=
    have hl := h.faulty f hf
    ⟨hresult.trans hl.result, hstate.trans hl.state, htrace.trans hl.trace⟩

/-- What was heard before comes first. -/
lemma TurnEnds.behind {d : Decoder} {tail : List Arrival} {heard o : Outcome Registry Unit}
    (h : TurnEnds l id d tail heard o) (front : List Effect) :
    TurnEnds l id d tail { heard with trace := front ++ heard.trace }
      { o with trace := front ++ o.trace } where
  waits hok ht :=
    have hw := h.waits hok ht
    ⟨hw.result, hw.state, by simp only [visible_append, hw.trace]⟩
  concluded hok ht :=
    have hl := h.concluded hok ht
    ⟨hl.result, hl.state, by simp only [visible_append, hl.trace, List.append_assoc]⟩
  broken hok ht hc :=
    have hl := h.broken hok ht hc
    ⟨hl.result, hl.state, by simp only [visible_append, hl.trace, List.append_assoc]⟩
  faulty f hf :=
    have hl := h.faulty f hf
    ⟨hl.result, hl.state, by simp only [visible_append, hl.trace, List.append_assoc]⟩

end Steps

/-! ### A turn -/

section Turn

variable (l : Listener) (id : Nat) (uri : String)

lemma told_nil (d : Decoder) (tail : List Arrival) :
    told d [] tail = (if concludes tail then [d.finish] else []).filter (!·.isEmpty) := rfl

lemma told_cons (d : Decoder) (chunk : List UInt8) (rest : List (List UInt8))
    (tail : List Arrival) :
    told d (chunk :: rest) tail
      = [(d.feed chunk).1].filter (!·.isEmpty) ++ told (d.feed chunk).2 rest tail := by
  simp only [told, Decoder.pieces, List.flatten_cons, Decoder.feed_append, ← List.filter_append,
    List.cons_append, List.nil_append]

/-- The chunks have been taken in, and something else comes, or nothing. -/
lemma ends_consume_nil (d : Decoder) {tail : List Arrival}
    (htail : ∀ bytes behind, tail ≠ .bytes bytes :: behind) (r : Registry) :
    TurnEnds l id d tail ((Act.each (l.output id) (told d [] tail)).run r)
      ((consume l id uri d tail).run r) := by
  rw [told_nil]
  rcases tail with _ | ⟨bytes | (e | e | e) | _, behind⟩
  · refine ⟨fun _ _ => ⟨rfl, rfl, rfl⟩, fun _ h => ?_, fun _ h => absurd rfl h, fun f h => ?_⟩
    · cases h
    · cases h
  · exact absurd rfl (htail bytes behind)
  · rw [concludes, if_pos rfl, ← hear_eq_each, consume, Act.run_log_bind]
    · exact (ends_conclude uri d rfl r).of_visible rfl rfl rfl
    all_goals simp
  · rw [concludes, if_pos rfl, ← hear_eq_each, consume, Act.run_log_bind]
    · exact (ends_conclude uri d rfl r).of_visible rfl rfl rfl
    all_goals simp
  · refine ⟨fun _ h => ?_, fun _ h => ?_, fun _ _ _ => ?_, fun f h => ?_⟩
    · cases h
    · cases h
    · exact leaves_breakOff (by rw [consume, breakOff, Act.run_log_bind, run_leave]) rfl rfl
    · cases h
  · rw [concludes, if_pos rfl, ← hear_eq_each, consume]
    exact ends_conclude uri d rfl r

lemma ends_consume (d : Decoder) (chunks : List (List UInt8)) {tail : List Arrival}
    (htail : ∀ bytes behind, tail ≠ .bytes bytes :: behind) (r : Registry) :
    TurnEnds l id (d.feed chunks.flatten).2 tail
      ((Act.each (l.output id) (told d chunks tail)).run r)
      ((consume l id uri d (chunks.map .bytes ++ tail)).run r) := by
  induction chunks generalizing d r with
  | nil => exact ends_consume_nil l id uri d htail r
  | cons chunk rest ih =>
    rw [told_cons, Act.each_append, ← hear_eq_each, List.flatten_cons, Decoder.feed_append,
      List.map_cons, List.cons_append, consume]
    rw [Act.run_attempt_bind]
    cases hr : ((hear l id (d.feed chunk).1).run r).result with
    | ok _ =>
      rw [Act.run_bind_ok _ _ _ hr]
      exact (ih (d.feed chunk).2 _).behind _
    | error f =>
      rw [Act.run_bind_error _ _ _ hr]
      refine ⟨fun h => ?_, fun h => ?_, fun h => ?_, fun g _ => ?_⟩
      · cases h
      · cases h
      · cases h
      · exact leaves_breakOff (by rw [breakOff, Act.run_log_bind, run_leave]) rfl
          (visible_append ..)

end Turn

/-- All that has arrived on a pipe of a slot has been taken. -/
def emptied (id : Nat) (pipe : Stream) (r : Registry) : Registry :=
  r.updateChild id fun c => { c with stdout := some { pipe with queue := [] } }

lemma run_readOutput {l : Listener} {r : Registry} {id : Nat} {j : Job} {c : Child} {d : Decoder}
    {pipe : Stream} (hj : r.job? id = some j) (hreader : j.reader = some d)
    (hc : r.child? id = some c) (hpipe : c.stdout = some pipe) :
    (readOutput l id).run r
      = (consume l id j.session.uri d pipe.queue).run (r.emptied id pipe) := by
  obtain ⟨session, file, reader, listening, reaping⟩ := j
  cases hreader
  rw [readOutput, Act.run_get_bind, hj, hc, Option.bind_some, hpipe]
  rfl

lemma run_readOutput_of_none {l : Listener} {r : Registry} {id : Nat} {j : Job}
    (hj : r.job? id = some j) (hreader : j.reader = none) :
    (readOutput l id).run r = { result := .ok (), state := r, trace := [] } := by
  obtain ⟨session, file, reader, listening, reaping⟩ := j
  cases hreader
  rw [readOutput, Act.run_get_bind, hj]
  rfl

lemma nil_notMem_told (d : Decoder) (chunks : List (List UInt8)) (tail : List Arrival) :
    [] ∉ told d chunks tail := by
  simp [told]

lemma flatten_told (d : Decoder) (chunks : List (List UInt8)) (tail : List Arrival) :
    (told d chunks tail).flatten = (d.feed chunks.flatten).1 ++
      if concludes tail then (d.feed chunks.flatten).2.finish else [] := by
  rw [told, List.flatten_filter_not_isEmpty, List.flatten_append, Decoder.flatten_pieces]
  split <;> simp

/-- What a reader tells in a turn. The bytes `before` are those of its earlier turns. All texts
together are the bytes decoded, without those at the end that are incomplete, unless the pipe ends:
then these are replaced. No text is empty. Behind the texts the reader waits, if nothing has ended,
or the listener is told of the exit, once and last: a reader that is gone does nothing. If the
listener has a fault at a text it does not hear the later ones. -/
theorem reader_tells_all_and_leaves_once (before : List UInt8) (chunks : List (List UInt8))
    (tail : List Arrival) (htail : ∀ bytes behind, tail ≠ .bytes bytes :: behind) :
    let bytes := before ++ chunks.flatten
    ∃ texts : List (List Char), [] ∉ texts ∧
      (concludes tail = true →
        (Decoder.clean.feed before).1 ++ texts.flatten = decode bytes) ∧
      (concludes tail = false → ∃ whole trail, bytes = whole ++ trail ∧ IsTrail bytes trail ∧
        (Decoder.clean.feed before).1 ++ texts.flatten = decode whole) ∧
      (∀ (l : Listener) (r : Registry) (id : Nat) (j : Job), r.job? id = some j → j.reader = none →
        (readOutput l id).run r = { result := .ok (), state := r, trace := [] }) ∧
      ∀ (l : Listener) (r : Registry) (id : Nat) (j : Job) (c : Child) (pipe : Stream),
        r.job? id = some j → j.reader = some (Decoder.clean.feed before).2 →
        r.child? id = some c → c.stdout = some pipe → pipe.queue = chunks.map .bytes ++ tail →
        let heard := (Act.each (l.output id) texts).run (r.emptied id pipe)
        TurnEnds l id (Decoder.clean.feed bytes).2 tail heard ((readOutput l id).run r) ∧
        ∀ f, heard.result = .error f → ∃ done text later, texts = done ++ text :: later ∧
          let first := (Act.each (l.output id) done).run (r.emptied id pipe)
          first.result = .ok () ∧ ((l.output id text).run first.state).result = .error f ∧
          heard.state = ((l.output id text).run first.state).state := by
  intro bytes
  have hbytes : Decoder.clean.feed bytes = _ := Decoder.feed_append .clean before chunks.flatten
  refine ⟨told (Decoder.clean.feed before).2 chunks tail, nil_notMem_told _ _ _, fun hend => ?_,
    fun hend => ?_, fun l r id j hj hreader => run_readOutput_of_none hj hreader, ?_⟩
  · have hfinish := Decoder.feed_finish .clean bytes
    rw [hbytes, List.append_assoc] at hfinish
    rw [flatten_told, if_pos hend]
    exact hfinish
  · obtain ⟨whole, trail, hwhole, htrail, hdecode⟩ := Decoder.exists_trail bytes
    refine ⟨whole, trail, hwhole, htrail, ?_⟩
    rw [flatten_told, hend, if_neg (by simp), List.append_nil, ← hdecode, hbytes]
  · intro l r id j c pipe hj hreader hc hpipe hqueue heard
    refine ⟨?_, fun f hf => Act.exists_of_each_error hf⟩
    rw [run_readOutput hj hreader hc hpipe, hqueue, hbytes]
    exact ends_consume l id j.session.uri _ chunks htail _

/-- A process has ended, and has left a character in two chunks and the beginning of another one. -/
def cutOff : Registry where
  slots := [{
    child := {
      stdout := some { queue := [.bytes [0xC3], .bytes [0xA9, 0xE2], .finish] }
      code := some 3 }
    job := some { session := { uri := "a" }, file := "a", reader := some .clean } }]

theorem reader_tells_of_cutOff_and_leaves :
    (∀ bytes behind, [Arrival.finish] ≠ .bytes bytes :: behind) ∧
    ∃ texts : List (List Char), [] ∉ texts ∧ texts.flatten = ['é', replacement] ∧
      ∀ l : Listener,
        let heard := (Act.each (l.output 0) texts).run (cutOff.emptied 0 {
          queue := [.bytes [0xC3], .bytes [0xA9, 0xE2], .finish] })
        heard.result = .ok () →
          Leaves l 0 ((heard.state.child? 0).bind (·.code)) heard
            ((readOutput l 0).run cutOff) := by
  have htail : ∀ bytes behind, [Arrival.finish] ≠ .bytes bytes :: behind := by simp
  obtain ⟨texts, hne, htext, -, -, hread⟩ :=
    reader_tells_all_and_leaves_once [] [[0xC3], [0xA9, 0xE2]] [.finish] htail
  refine ⟨htail, texts, hne, (htext rfl).trans ?_, ?_⟩
  · exact (Decoder.feed_finish .clean _).symm.trans (by decide)
  · intro l heard hok
    exact (hread l cutOff 0 _ _ _ rfl rfl rfl rfl rfl).1.concluded hok rfl

end Registry

end ProverLink
