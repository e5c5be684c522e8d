import Mathlib.Computability.Language
import Mathlib.Data.List.TakeWhile
import ProverLink.Proofs.Reports
import ProverLink.Proofs.Pipes

/-!
# Conversations

What passes between the editor and the checker of a document, while a session serves the document,
follows a regular language. The checker is given the text; then there are rounds, in each of which
the diagnostics are cleared, a check is asked for and its results are shown; at the end there may be
a report that the checker failed. The report may take the place of a line that was not taken.
-/

namespace ProverLink

open Computability

/-! ### The language -/

namespace Conversation

variable (u : String) (id : Nat)

/-- The text of the document is written. -/
def added : Language Effect :=
  {w | ∃ text n line, ((Query.vfsAdd text).stamp n).toLine = .ok line ∧ w = [.wrote id line]}

/-- The diagnostics of the document are cleared. -/
def cleared : Language Effect := {w | w = clearing u}

/-- A check is written. -/
def asked : Language Effect := {w | ∃ n line, Query.IsCheck n line ∧ w = [.wrote id line]}

/-- A result is shown. -/
def shown : Language Effect := {w | ∃ e : EditorEvent, e.Shows u ∧ w = [.event e]}

/-- The checker is reported to have failed. -/
def reported : Language Effect := {w | ∃ message, w = report u message}

/-- A check with its results. -/
def round : Language Effect := cleared u * asked id * (shown u)∗

/-- A conversation that has not come to its end. -/
def spoken : Language Effect := added id * (round u id)∗

/-- All conversations. -/
def language : Language Effect :=
  reported u + spoken u id * (1 + reported u + cleared u * reported u)

/-- A conversation as long as the session serves its document: there is a round. -/
def talking : Language Effect := spoken u id * round u id

/-- The beginning of a conversation. -/
def IsStart (w : List Effect) : Prop := ∃ word ∈ language u id, w <+: word

variable {u : String} {id : Nat} {w : List Effect}

lemma added_mem_spoken {text : String} {n : Nat} {line : List Char}
    (h : ((Query.vfsAdd text).stamp n).toLine = .ok line) : [.wrote id line] ∈ spoken u id :=
  Language.mem_mul.2 ⟨_, ⟨text, n, line, h, rfl⟩, [], Language.nil_mem_kstar _, rfl⟩

/-- A check without results is a round. -/
lemma asked_mem_round {n : Nat} {line : List Char} (h : Query.IsCheck n line) :
    clearing u ++ [.wrote id line] ∈ round u id := by
  refine Language.mem_mul.2 ⟨_, ?_, [], Language.nil_mem_kstar _, List.append_nil _⟩
  exact Language.append_mem_mul rfl ⟨n, line, h, rfl⟩

lemma mem_round_of_shown (hw : w ∈ round u id * shown u) : w ∈ round u id := by
  have hle : round u id * shown u ≤ round u id := by
    rw [round, mul_assoc]
    exact mul_le_mul_right kstar_mul_le_kstar _
  exact hle hw

lemma spoken_of_talking (hw : w ∈ talking u id) : w ∈ spoken u id := by
  have hle : talking u id ≤ spoken u id := by
    rw [talking, spoken, mul_assoc]
    exact mul_le_mul_right kstar_mul_le_kstar _
  exact hle hw

lemma talking_of_spoken (hw : w ∈ spoken u id) {n : Nat} {line : List Char}
    (h : Query.IsCheck n line) : w ++ (clearing u ++ [.wrote id line]) ∈ talking u id :=
  Language.append_mem_mul hw (asked_mem_round h)

lemma talking_shown (hw : w ∈ talking u id) {es : List EditorEvent} (h : ∀ e ∈ es, e.Shows u) :
    w ++ es.map .event ∈ talking u id := by
  induction es generalizing w with
  | nil => rwa [List.map_nil, List.append_nil]
  | cons e rest ih =>
    have hone : w ++ [.event e] ∈ talking u id := by
      have hmul : w ++ [.event e] ∈ talking u id * shown u :=
        Language.append_mem_mul hw ⟨e, h e List.mem_cons_self, rfl⟩
      rw [talking, mul_assoc] at hmul
      obtain ⟨x, hx, y, hy, heq⟩ := Language.mem_mul.1 hmul
      rw [← heq]
      exact Language.append_mem_mul hx (mem_round_of_shown hy)
    rw [List.map_cons, List.append_cons]
    exact ih hone fun e' he' => h e' (List.mem_cons_of_mem _ he')

lemma isStart_nil : IsStart u id [] :=
  ⟨report u "", .inl ⟨"", rfl⟩, List.nil_prefix⟩

lemma isStart_report (message : String) : IsStart u id (report u message) :=
  ⟨report u message, .inl ⟨message, rfl⟩, List.prefix_rfl⟩

lemma isStart_of_spoken (hw : w ∈ spoken u id) : IsStart u id w := by
  refine ⟨w, .inr (Language.mem_mul.2 ⟨w, hw, [], ?_, List.append_nil w⟩), List.prefix_rfl⟩
  exact .inl (.inl rfl)

lemma isStart_spoken_report (hw : w ∈ spoken u id) (message : String) :
    IsStart u id (w ++ report u message) :=
  ⟨_, .inr (Language.append_mem_mul hw (.inl (.inr ⟨message, rfl⟩))), List.prefix_rfl⟩

/-- The report takes the place of a check. -/
lemma isStart_spoken_clearing_report (hw : w ∈ spoken u id) (message : String) :
    IsStart u id (w ++ (clearing u ++ report u message)) :=
  ⟨_, .inr (Language.append_mem_mul hw (.inr (Language.append_mem_mul rfl ⟨message, rfl⟩))),
    List.prefix_rfl⟩

lemma IsStart.shorten {w' : List Effect} (h : IsStart u id w') (hw : w <+: w') :
    IsStart u id w := by
  obtain ⟨word, hword, hprefix⟩ := h
  exact ⟨word, hword, hw.trans hprefix⟩

/-! ### What words look like -/

/-- A check, or the beginning of a report. -/
inductive Answers (u : String) (id : Nat) : Effect → Prop where
  | check {n : Nat} {line : List Char} : Query.IsCheck n line → Answers u id (.wrote id line)
  | report (message : String) : Answers u id (.event (.publish u [.ofFailure message]))

/-- Before each check the diagnostics are cleared, and behind each clear there is a check or a
report. -/
def Regular (u : String) (id : Nat) (w : List Effect) : Prop :=
  ∀ xs e ys, w = xs ++ e :: ys →
    (∀ n line, e = .wrote id line → Query.IsCheck n line → clearing u <:+ xs) ∧
      (e = .event (.statusClear u) → ∃ e' zs, ys = e' :: zs ∧ Answers u id e')

lemma regular_nil : Regular u id [] := by
  intro xs e ys h
  cases xs <;> cases h

lemma regular_singleton {e : Effect} (hcheck : ∀ n line, e = .wrote id line → ¬Query.IsCheck n line)
    (hclear : e ≠ .event (.statusClear u)) : Regular u id [e] := by
  intro xs e' ys h
  obtain ⟨rfl, rfl, rfl⟩ : xs = [] ∧ e = e' ∧ ys = [] := by
    cases xs with
    | nil => simpa [eq_comm] using h
    | cons x rest => simp at h
  exact ⟨fun n line he hline => absurd hline (hcheck n line he), fun he => absurd he hclear⟩

/-- What is looked at lies in one of the parts. -/
lemma Regular.append {w' : List Effect} (h : Regular u id w) (h' : Regular u id w') :
    Regular u id (w ++ w') := by
  intro xs e ys heq
  rcases List.append_eq_append_iff.1 heq with ⟨a, rfl, ha⟩ | ⟨c, rfl, hc⟩
  · obtain ⟨hcheck, hclear⟩ := h' a e ys ha
    refine ⟨fun n line he hline => ?_, hclear⟩
    exact (hcheck n line he hline).trans (List.suffix_append w a)
  · cases c with
    | nil =>
      obtain ⟨hcheck, hclear⟩ := h' [] e ys hc.symm
      refine ⟨fun n line he hline => ?_, hclear⟩
      exact absurd (hcheck n line he hline) (by simp [clearing])
    | cons a rest =>
      rw [List.cons_append, List.cons.injEq] at hc
      obtain ⟨rfl, rfl⟩ := hc
      obtain ⟨hcheck, hclear⟩ := h xs e rest rfl
      refine ⟨hcheck, fun he => ?_⟩
      obtain ⟨e', zs, rfl, hanswers⟩ := hclear he
      exact ⟨e', zs ++ w', rfl, hanswers⟩

lemma regular_flatten {ws : List (List Effect)} (h : ∀ x ∈ ws, Regular u id x) :
    Regular u id ws.flatten := by
  induction ws with
  | nil => exact regular_nil
  | cons x rest ih =>
    exact (h x List.mem_cons_self).append (ih fun y hy => h y (List.mem_cons_of_mem _ hy))

lemma regular_clearing {e : Effect} (h : Answers u id e) : Regular u id (clearing u ++ [e]) := by
  intro xs e' ys heq
  match xs with
  | [] =>
    cases heq
    exact ⟨nofun, nofun⟩
  | [_] =>
    cases heq
    exact ⟨nofun, fun _ => ⟨e, [], rfl, h⟩⟩
  | [_, _] =>
    cases heq
    refine ⟨fun _ _ _ _ => List.suffix_rfl, ?_⟩
    rintro rfl
    cases h
  | _ :: _ :: _ :: rest => simp [clearing] at heq

lemma regular_event {e : EditorEvent} (h : e ≠ .statusClear u) : Regular u id [.event e] :=
  regular_singleton nofun fun he => h (Effect.event.inj he)

lemma regular_shown {w : List Effect} (h : w ∈ (shown u)∗) : Regular u id w := by
  obtain ⟨ws, rfl, hws⟩ := Language.mem_kstar.1 h
  refine regular_flatten fun x hx => ?_
  obtain ⟨e, he, rfl⟩ := hws x hx
  refine regular_event ?_
  rintro rfl
  exact he

lemma regular_round {w : List Effect} (h : w ∈ round u id) : Regular u id w := by
  obtain ⟨_, ⟨_, rfl, _, ⟨n, line, hline, rfl⟩, rfl⟩, _, hshown, rfl⟩ := h
  exact (regular_clearing (.check hline)).append (regular_shown hshown)

lemma regular_report (message : String) : Regular u id (report u message) :=
  (regular_event (e := .publish u [.ofFailure message]) nofun).append
    (regular_event (e := .logError _) nofun)

lemma regular_spoken {w : List Effect} (h : w ∈ spoken u id) : Regular u id w := by
  obtain ⟨_, ⟨text, n, line, hline, rfl⟩, _, hrounds, rfl⟩ := h
  obtain ⟨ws, rfl, hws⟩ := Language.mem_kstar.1 hrounds
  refine Regular.append (regular_singleton ?_ nofun) (regular_flatten fun x hx =>
    regular_round (hws x hx))
  rintro m line' ⟨⟩
  exact Query.not_isCheck_vfsAdd hline m

lemma regular_language {w : List Effect} (h : w ∈ language u id) : Regular u id w := by
  rcases h with ⟨message, rfl⟩ | ⟨_, hspoken, _, (rfl | ⟨message, rfl⟩) | hlast, rfl⟩
  · exact regular_report message
  · exact (regular_spoken hspoken).append regular_nil
  · exact (regular_spoken hspoken).append (regular_report message)
  · obtain ⟨_, rfl, _, ⟨message, rfl⟩, rfl⟩ := hlast
    exact (regular_spoken hspoken).append
      ((regular_clearing (.report message)).append (regular_event nofun))

lemma IsStart.clearing_suffix (h : IsStart u id w) {xs ys : List Effect} {n : Nat}
    {line : List Char} (hw : w = xs ++ .wrote id line :: ys) (hline : Query.IsCheck n line) :
    clearing u <:+ xs := by
  obtain ⟨word, hword, rest, rfl⟩ := h
  refine (regular_language hword xs (.wrote id line) (ys ++ rest) ?_).1 n line rfl hline
  rw [hw, List.append_assoc]
  rfl

lemma IsStart.answers (h : IsStart u id w) {xs ys : List Effect} {e : Effect}
    (hw : w = xs ++ .event (.statusClear u) :: e :: ys) : Answers u id e := by
  obtain ⟨word, hword, rest, rfl⟩ := h
  obtain ⟨e', zs, heq, hanswers⟩ :=
    (regular_language hword xs (.event (.statusClear u)) (e :: ys ++ rest) (by
      rw [hw, List.append_assoc]
      rfl)).2 rfl
  cases heq
  exact hanswers

end Conversation

/-! ### The share of a session -/

/-- Whether an effect is the start of the process in a slot. -/
def Effect.spawns (id : Nat) : Effect → Bool
  | .spawned j _ _ => j = id
  | _ => false

/-- What is seen behind the start of the process in a slot. -/
def behindSpawn (id : Nat) (seen : List Effect) : List Effect :=
  (seen.dropWhile fun e => !e.spawns id).tail

/-- What is seen before the start of the process in a slot. -/
def beforeSpawn (id : Nat) (seen : List Effect) : List Effect :=
  seen.takeWhile fun e => !e.spawns id

namespace Bridge

open Registry

section Share

variable [Limits]

/-- What a step adds to the conversation of a document and the checker in a slot. It takes part from
the start of its process to the end of its session. If the document is opened again, the session
that it had takes part until the new process is started, and if there is none, to the end of the
step. -/
def Step.share (u : String) (id : Nat) (r : Registry) (st : Step) : List Effect :=
  let seen := visible (st.act.run r).trace
  let mine := Effect.concerns u id (st.document? r = some u)
  if st.Opens u ∧ id = r.slots.length then (behindSpawn id seen).filter mine
  else if r.find? u = some id then
    (if st.Opens u then beforeSpawn r.slots.length seen else seen).filter mine
  else []

/-- The conversation of a document and the checker in a slot during some steps. -/
def conversation (u : String) (id : Nat) : List Step → Registry → List Effect
  | [], _ => []
  | st :: rest, r => st.share u id r ++ conversation u id rest (st.act.run r).state

lemma conversation_append (u : String) (id : Nat) (xs ys : List Step) (r : Registry) :
    conversation u id (xs ++ ys) r
      = conversation u id xs r ++ conversation u id ys (after xs r) := by
  induction xs generalizing r with
  | nil => rfl
  | cons st rest ih =>
    rw [List.cons_append, conversation, ih, conversation, List.append_assoc, after]

end Share

end Bridge

/-! ### Turns -/

/-- What a query that asks for a check adds to a conversation, and which session serves the document
behind it. -/
inductive Asking (u : String) (id : Nat) (x : List Effect) (served : Option Nat) : Prop where
  | taken (n : Nat) (line : List Char) : Query.IsCheck n line → served = some id →
    x = clearing u ++ [.wrote id line] → Asking u id x served
  | refused (message : String) : served = none → x = clearing u ++ report u message →
    Asking u id x served
  | cut : served = none → x = clearing u → Asking u id x served

/-- What a step adds to the conversation of a session that serves its document. -/
inductive Turn (u : String) (id : Nat) (x : List Effect) (served : Option Nat) : Prop where
  | asking : Asking u id x served → Turn u id x served
  | shown (es : List EditorEvent) : (∀ e ∈ es, e.Shows u) → x = es.map .event → Turn u id x served
  | lost (es : List EditorEvent) (message : String) : (∀ e ∈ es, e.Shows u) → served = none →
    x = es.map .event ++ report u message → Turn u id x served

section Turns

open Conversation

variable {u : String} {id : Nat} {w x : List Effect} {served : Option Nat}

lemma Asking.allConcern (h : Asking u id x served) : AllConcern u id x := by
  cases h with
  | taken n line _ _ hx =>
    rw [hx]
    exact (allConcern_clearing u id).append (allConcern_wrote u id line)
  | refused message _ hx =>
    rw [hx]
    exact (allConcern_clearing u id).append (allConcern_report u id message)
  | cut _ hx =>
    rw [hx]
    exact allConcern_clearing u id

lemma Asking.goesOn (h : Asking u id x (some id)) (hw : w ∈ spoken u id) :
    w ++ x ∈ talking u id := by
  cases h with
  | taken n line hline _ hx =>
    rw [hx]
    exact talking_of_spoken hw hline
  | refused _ hserved _ => cases hserved
  | cut hserved _ => cases hserved

lemma Asking.isStart (h : Asking u id x served) (hw : w ∈ spoken u id) : IsStart u id (w ++ x) := by
  cases h with
  | taken n line hline _ hx =>
    rw [hx]
    exact isStart_of_spoken (spoken_of_talking (talking_of_spoken hw hline))
  | refused message _ hx =>
    rw [hx]
    exact isStart_spoken_clearing_report hw message
  | cut _ hx =>
    rw [hx]
    refine (isStart_spoken_clearing_report hw "").shorten ?_
    rw [← List.append_assoc]
    exact List.prefix_append _ _

lemma Turn.silent : Turn u id [] served := .shown [] (List.forall_mem_nil _) rfl

lemma Turn.allConcern (h : Turn u id x served) : AllConcern u id x := by
  cases h with
  | asking h => exact h.allConcern
  | shown es hes hx =>
    rw [hx]
    exact allConcern_shows hes id
  | lost es message hes _ hx =>
    rw [hx]
    exact (allConcern_shows hes id).append (allConcern_report u id message)

/-- As long as the session serves its document, the conversation goes on. -/
lemma Turn.goesOn (h : Turn u id x (some id)) (hw : w ∈ talking u id) : w ++ x ∈ talking u id := by
  cases h with
  | asking h => exact h.goesOn (spoken_of_talking hw)
  | shown es hes hx =>
    rw [hx]
    exact talking_shown hw hes
  | lost _ _ _ hserved _ => cases hserved

lemma Turn.isStart (h : Turn u id x served) (hw : w ∈ talking u id) : IsStart u id (w ++ x) := by
  cases h with
  | asking h => exact h.isStart (spoken_of_talking hw)
  | shown es hes hx =>
    rw [hx]
    exact isStart_of_spoken (spoken_of_talking (talking_shown hw hes))
  | lost es message hes _ hx =>
    rw [hx, ← List.append_assoc]
    exact isStart_spoken_report (spoken_of_talking (talking_shown hw hes)) message

end Turns

namespace Registry

lemma Sending.asking {r : Registry} {u : String} {id n : Nat} {s s' : Session} {c : Child}
    {line : List Char} {o : Outcome Registry (Option Nat)}
    (h : Sending u id (clearing u) s s' c line r o) (hc : c.IsFair) (hline : Query.IsCheck n line) :
    Asking u id (visible o.trace) (o.state.find? u) := by
  cases h with
  | taken _ hr _ htrace => exact .taken n line hline hr.find_self htrace
  | refused h =>
    cases h with
    | lost e _ _ hr _ htrace => exact .refused _ hr.find_self htrace
    | cut _ _ _ _ hr _ htrace => exact .cut hr.find_self htrace
    | wild f hwrite hf _ _ _ =>
      obtain ⟨e, rfl⟩ := hc.transport hwrite
      exact absurd rfl (hf e)

lemma Refusing.find_cases {r : Registry} {u : String} {id : Nat} {front : List Effect} {s : Session}
    {c : Child} {o : Outcome Registry (Option Nat)} (h : Refusing u id front s c r o) :
    o.state.find? u = none ∨ o.state.find? u = some id := by
  cases h with
  | lost _ _ _ hr _ _ => exact .inl hr.find_self
  | cut _ _ _ _ hr _ _ => exact .inl hr.find_self
  | wild _ _ _ hr _ _ => exact .inr hr.find_self

lemma Opening.find_cases {r : Registry} {u text : String} {o : Outcome Registry (Option Nat)}
    (h : Opening u text r o) :
    o.state.find? u = none ∨ o.state.find? u = some r.slots.length := by
  cases h with
  | stuck _ _ _ _ _ _ _ _ hr _ _ => exact .inl hr.find_self
  | unstarted _ hv _ _ => exact .inl ((hv.find u).trans (if_pos rfl))
  | failed _ hv _ _ => exact .inl ((hv.find u).trans (if_pos rfl))
  | pipeless _ _ _ hv hstate _ _ =>
    rw [hstate]
    exact .inl ((hv.find u).trans (if_pos rfl))
  | refused _ _ _ _ ho _ hstate _ _ =>
    rw [hstate]
    exact ho.find_cases
  | checked _ _ _ _ _ _ _ _ ho hstate _ _ =>
    rw [hstate]
    cases ho with
    | taken _ hr _ _ => exact .inr hr.find_self
    | refused ho => exact ho.find_cases

end Registry

/-- What the opening of its document adds to the conversation of a new session. -/
inductive Beginning (u : String) (id : Nat) (x : List Effect) (r : Registry) : Prop where
  | silent : r.find? u ≠ some id → x = [] → Beginning u id x r
  | unheard (message : String) : r.session? id ≠ none → r.find? u = none → x = report u message →
    Beginning u id x r
  | begun {text : String} {n : Nat} {line : List Char} {y : List Effect} : r.session? id ≠ none →
    ((Query.vfsAdd text).stamp n).toLine = .ok line → Asking u id y (r.find? u) →
    x = .wrote id line :: y → Beginning u id x r

section Beginnings

open Conversation Registry

variable {u : String} {id : Nat} {x : List Effect} {r : Registry}

lemma Beginning.goesOn (h : Beginning u id x r) (hfind : r.find? u = some id) :
    x ∈ talking u id := by
  cases h with
  | silent hne _ => exact absurd hfind hne
  | unheard _ _ hnone _ =>
    rw [hnone] at hfind
    cases hfind
  | begun _ hline hasking hx =>
    rw [hfind] at hasking
    rw [hx]
    exact hasking.goesOn (added_mem_spoken hline)

lemma Beginning.isStart (h : Beginning u id x r) : IsStart u id x := by
  cases h with
  | silent _ hx =>
    rw [hx]
    exact isStart_nil
  | unheard message _ _ hx =>
    rw [hx]
    exact isStart_report message
  | begun _ hline hasking hx =>
    rw [hx]
    exact hasking.isStart (added_mem_spoken hline)

lemma Beginning.eq_nil (h : Beginning u id x r) (hnone : r.session? id = none) : x = [] := by
  cases h with
  | silent _ hx => exact hx
  | unheard _ hsome _ _ => exact absurd hnone hsome
  | begun hsome _ _ _ => exact absurd hnone hsome

lemma behindSpawn_eq_nil {id : Nat} {tr : List Effect} (h : ∀ e ∈ tr, e.spawns id = false) :
    behindSpawn id tr = [] := by
  have hdrop : (tr.dropWhile fun e => !e.spawns id) = [] := by
    rw [List.dropWhile_eq_nil_iff]
    intro e he
    rw [h e he]
    rfl
  rw [behindSpawn, hdrop]
  rfl

lemma behindSpawn_spawned (id : Nat) (command : List String) (directory : String)
    (tr : List Effect) : behindSpawn id (.spawned id command directory :: tr) = tr := by
  simp [behindSpawn, Effect.spawns]

lemma beginning_opening {text : String} {o : Outcome Registry (Option Nat)} (hfair : r.Fair)
    (h : Opening u text r o) :
    Beginning u r.slots.length
      ((behindSpawn r.slots.length (visible o.trace)).filter
        (Effect.concerns u r.slots.length true)) o.state := by
  cases h with
  | stuck _ _ _ _ _ _ _ _ hr _ htrace =>
    rw [htrace]
    exact .silent (by rw [hr.find_self]; simp) rfl
  | unstarted message hv _ htrace =>
    rw [htrace, behindSpawn_eq_nil (by simp [report, Effect.spawns])]
    exact .silent (by rw [hv.find, if_pos rfl]; simp) rfl
  | failed _ hv _ htrace =>
    rw [htrace]
    exact .silent (by rw [hv.find, if_pos rfl]; simp) rfl
  | pipeless _ _ _ hv hstate _ htrace =>
    have hfind := hv.find u
    rw [if_pos rfl] at hfind
    rw [htrace, behindSpawn_spawned]
    refine .silent (fun hsome => ?_) rfl
    rw [hstate] at hsome
    cases hfind.symm.trans hsome
  | refused _ _ hv hseats ho hattached hstate _ htrace =>
    have hc := hfair.child hattached
    obtain ⟨t, ht⟩ := ho.session_eq
    have hsession : o.state.session? r.slots.length ≠ none := by
      rw [hstate, ht, if_pos rfl]
      simp
    rw [htrace, behindSpawn_spawned, (ho.allConcern (allConcern_nil _ _)).filter_self]
    cases ho with
    | lost e _ _ hr _ htrace => exact .unheard _ hsession (hstate ▸ hr.find_self) htrace
    | cut _ _ _ _ hr _ htrace =>
      exact .silent (by rw [hstate, hr.find_self]; simp) htrace
    | wild f hwrite hf _ _ _ =>
      obtain ⟨e, rfl⟩ := hc.transport hwrite
      exact absurd rfl (hf e)
  | @checked _ _ _ _ line _ _ _ hv hseats hline hwrite hr hline' ho hstate _ htrace =>
    have hc := (hfair.child (Child.attached_of_writeFault? hwrite)).tried
    have hasking := ho.asking hc ⟨text, hline'⟩
    have hall := (allConcern_wrote u r.slots.length line).append hasking.allConcern
    obtain ⟨t, ht⟩ := ho.session_eq
    rw [htrace, behindSpawn_spawned, ← List.singleton_append, hall.filter_self]
    refine .begun ?_ hline (hstate ▸ hasking) rfl
    rw [hstate, ht, if_pos rfl]
    simp

lemma beforeSpawn_spawned (id : Nat) (command : List String) (directory : String)
    (tr : List Effect) : beforeSpawn id (.spawned id command directory :: tr) = [] := by
  simp [beforeSpawn, Effect.spawns]

/-- What the opening of its document adds to the conversation of the session that it had: nothing,
or the report that there is no new one. -/
lemma turn_opening {text : String} {o : Outcome Registry (Option Nat)} (h : Opening u text r o)
    (id : Nat) :
    Turn u id ((beforeSpawn r.slots.length (visible o.trace)).filter (Effect.concerns u id true))
      (o.state.find? u) := by
  cases h with
  | stuck _ _ _ _ _ _ _ _ _ _ htrace =>
    rw [htrace]
    exact .silent
  | unstarted message hv _ htrace =>
    have hbefore : beforeSpawn r.slots.length (report u message) = report u message := rfl
    rw [htrace, hbefore, (allConcern_report u id message).filter_self]
    exact .lost [] message (List.forall_mem_nil _) ((hv.find u).trans (if_pos rfl)) rfl
  | failed _ _ _ htrace =>
    rw [htrace]
    exact .silent
  | pipeless _ _ _ _ _ _ htrace =>
    rw [htrace, beforeSpawn_spawned]
    exact .silent
  | refused _ _ _ _ _ _ _ _ htrace =>
    rw [htrace, beforeSpawn_spawned]
    exact .silent
  | checked _ _ _ _ _ _ _ _ _ _ _ htrace =>
    rw [htrace, beforeSpawn_spawned]
    exact .silent

end Beginnings

namespace Bridge

open Registry Conversation

/-- What is known of the conversation of a document and the checker in a slot. -/
structure Converses (u : String) (id : Nat) (r : Registry) (w : List Effect) : Prop where
  fresh : r.session? id = none → w = []
  talking : r.find? u = some id → w ∈ talking u id
  start : ∀ s, r.session? id = some s → s.uri = u → IsStart u id w

lemma fair_start (config : Config) : Registry.Fair { config } :=
  ⟨by simp [Stdin.WritesWell, SpawnPlan.child], fun _ _ _ hs => nomatch hs⟩

lemma converses_start (u : String) (id : Nat) (config : Config) :
    Converses u id { config } [] :=
  ⟨fun _ => rfl, nofun, nofun⟩

section Steps

variable [Limits] {u : String} {id : Nat} {r : Registry} {st : Step}

/-! ### One step -/

/-- A session serves no document that it did not serve before, unless that is opened. -/
lemma find?_of_step (hserves : r.Serves) (hst : ¬st.Opens u)
    (h : (st.act.run r).state.find? u = some id) : r.find? u = some id := by
  revert h
  refine (course_step hserves st).keeps
    (P := fun r' => r'.find? u = some id → r.find? u = some id) ?_ ?_ ?_ ?_ fun h => h
  · intro _ _ h hsame _ hfind
    exact h (hsame u ▸ hfind)
  · intro _ _ _ _ _ h hmove hfind
    rcases hmove.shape with ha | ⟨_, -, hr⟩ | ⟨_, _, _, -, -, hset, -⟩
    · exact h (ha.find u ▸ hfind)
    · rw [hr.find] at hfind
      split at hfind
      · cases hfind
      · exact h hfind
    · exact h (hset.find u ▸ hfind)
  · intro v _ _ _ hopens h hadopts hfind
    rw [hadopts.find, if_neg] at hfind
    · exact h hfind
    · rintro rfl
      exact hst hopens
  · intro _ _ hnone _ _ hfind
    rw [hnone] at hfind
    cases hfind

/-- A session keeps its document. -/
lemma uri_of_step (hserves : r.Serves) {s : Session} (hs : r.session? id = some s) (st : Step) :
    ∃ s', (st.act.run r).state.session? id = some s' ∧ s'.uri = s.uri := by
  refine (course_step hserves st).keeps
    (P := fun r' => ∃ s', r'.session? id = some s' ∧ s'.uri = s.uri) ?_ ?_ ?_ ?_ ⟨s, hs, rfl⟩
  · intro _ _ h _ hsame
    rwa [hsame]
  · rintro _ _ _ _ _ ⟨t, ht, huri⟩ hmove
    rcases hmove.shape with ha | ⟨_, -, hr⟩ | ⟨j, t', t'', ht', -, hset, huri', -⟩
    · exact ⟨t, by rw [ha.session, ht], huri⟩
    · rw [hr.session, ht]
      split
      · exact ⟨t.ended, rfl, huri⟩
      · exact ⟨t, rfl, huri⟩
    · rw [hset.session]
      split
      · rename_i hj
        rw [hj, ht', Option.some.injEq] at ht
        exact ⟨t'', rfl, by rw [huri', ht, huri]⟩
      · exact ⟨t, ht, huri⟩
  · rintro _ _ _ _ _ ⟨t, ht, huri⟩ hadopts
    exact ⟨t, by rw [hadopts.session, if_neg (hadopts.ne_of_session ht), ht], huri⟩
  · intro gone _ _ hsession _
    rw [hsession]
    split
    · exact ⟨s.ended, by rw [hs]; rfl, rfl⟩
    · exact ⟨s, hs, rfl⟩

lemma uri_of_steps (hserves : r.Serves) {s : Session} (hs : r.session? id = some s)
    (steps : List Step) : ∃ s', (after steps r).session? id = some s' ∧ s'.uri = s.uri := by
  induction steps generalizing r s with
  | nil => exact ⟨s, hs, rfl⟩
  | cons st rest ih =>
    obtain ⟨s', hs', huri⟩ := uri_of_step hserves hs st
    obtain ⟨s'', hs'', huri'⟩ := ih ((course_step hserves st).serves hserves) hs'
    exact ⟨s'', hs'', huri'.trans huri⟩

lemma share_of_serving (hst : ¬st.Opens u) (hfind : r.find? u = some id) :
    st.share u id r
      = (visible (st.act.run r).trace).filter (Effect.concerns u id (st.document? r = some u)) := by
  rw [Step.share, if_neg fun h => hst h.1, if_pos hfind, if_neg hst]

/-- A step that is about another document adds nothing. -/
lemma share_of_other (hserves : r.Serves) (hst : ¬st.Opens u) (hfind : r.find? u = some id)
    (hdocument : st.document? r ≠ some u) : st.share u id r = [] := by
  rw [share_of_serving hst hfind, decide_eq_false hdocument]
  cases speaks_step hserves st with
  | silent hseen => rw [hseen, List.filter_nil]
  | about v j hv hj hall =>
    have huri : v ≠ u := by
      rintro rfl
      exact hdocument hv
    refine hall.filter_other huri ?_
    rintro rfl
    obtain ⟨s, hs, hu, -⟩ := hserves u j hfind
    rcases hj with ⟨s', hs', hv'⟩ | ⟨-, rfl⟩
    · rw [hs, Option.some.injEq] at hs'
      exact huri (by rw [← hv', ← hs', hu])
    · rw [session?_length] at hs
      cases hs

lemma turn_changeDocument (hserves : r.Serves) (hfair : r.Fair) (hfind : r.find? u = some id)
    (text : String) :
    Turn u id (visible ((Step.changeDocument u text).act.run r).trace)
      (((Step.changeDocument u text).act.run r).state.find? u) := by
  obtain ⟨s, hs, hu, -⟩ := hserves u id hfind
  obtain ⟨c, hc⟩ := exists_child_of_session hs
  have hline := Query.toLine_fullBuffer text (s.lastQuery + 1)
  rw [Step.act, Act.run_map]
  exact .asking ((sending_changeDocument hfind hs hc hu hline).asking (hfair.pipes id s c hs hc)
    ⟨text, hline⟩)

lemma turn_output {j : Nat} {text : List Char}
    (hdocument : (Step.output j text).document? r = some u) :
    Turn u id (visible ((Step.output j text).act.run r).trace)
      (((Step.output j text).act.run r).state.find? u) := by
  obtain ⟨s, hs, rfl⟩ := Option.map_eq_some_iff.1 hdocument
  rw [Step.act, Act.run_map]
  cases hearing_handleOutput j text r with
  | deaf _ ho =>
    rw [ho]
    exact .silent
  | heard es _ hs' _ _ _ hes htrace =>
    obtain rfl := Option.some.inj (hs.symm.trans hs')
    exact .shown es hes.shows htrace

lemma turn_exit {j : Nat} {code : Option Int}
    (hdocument : (Step.exit j code).document? r = some u) :
    Turn u id (visible ((Step.exit j code).act.run r).trace)
      (((Step.exit j code).act.run r).state.find? u) := by
  obtain ⟨s, hs, rfl⟩ := Option.map_eq_some_iff.1 hdocument
  rw [Step.act, Act.run_map]
  cases exiting_handleExit j code r with
  | deaf _ ho =>
    rw [ho]
    exact .silent
  | broken _ _ _ _ _ _ _ _ htrace => exact .shown [] (List.forall_mem_nil _) htrace
  | cut _ es _ hs' _ _ _ _ _ _ _ hes htrace =>
    obtain rfl := Option.some.inj (hs.symm.trans hs')
    exact .shown es hes.shows htrace
  | stray es _ hs' _ _ _ _ hes htrace =>
    obtain rfl := Option.some.inj (hs.symm.trans hs')
    exact .shown es hes.shows htrace
  | lost es _ hs' _ _ _ _ _ hr _ hes htrace =>
    obtain rfl := Option.some.inj (hs.symm.trans hs')
    exact .lost es (exitMessage code) hes.shows hr.find_self htrace

lemma turn_openDocument (hserves : r.Serves) (hfind : r.find? u = some id) (text : String)
    (path : Option Path) :
    Turn u id ((Step.openDocument u text path).share u id r)
      (((Step.openDocument u text path).act.run r).state.find? u) := by
  have hopens : (Step.openDocument u text path).Opens u := rfl
  have hself : decide ((Step.openDocument u text path).document? r = some u) = true := by
    simp [Step.document?]
  have hold : id ≠ r.slots.length := by
    rintro rfl
    obtain ⟨s, hs, -⟩ := hserves u _ hfind
    rw [session?_length] at hs
    cases hs
  rw [Step.share, if_neg fun h => hold h.2, if_pos hfind, if_pos hopens, hself]
  rcases opening_openStep u text path hserves with ⟨o, ho, hrun⟩ | ⟨f, hrun⟩
  · rw [hrun]
    exact turn_opening ho id
  · rw [hrun]
    exact .silent

/-- What a step adds to the conversation of a session that serves its document. -/
lemma turn_step (hserves : r.Serves) (hfair : r.Fair) (hfind : r.find? u = some id)
    (hst : ¬st.Opens u) : Turn u id (st.share u id r) ((st.act.run r).state.find? u) := by
  by_cases hdocument : st.document? r = some u
  · have hturn : Turn u id (visible (st.act.run r).trace) ((st.act.run r).state.find? u) := by
      cases st with
      | openDocument v text path => exact absurd (Option.some.inj hdocument) hst
      | changeDocument v text =>
        obtain rfl := Option.some.inj hdocument
        exact turn_changeDocument hserves hfair hfind text
      | closeDocument v =>
        rw [visible_closeDocument hserves]
        exact .silent
      | output j text => exact turn_output hdocument
      | exit j code => exact turn_exit hdocument
      | _ => cases hdocument
    rwa [share_of_serving hst hfind, decide_eq_true hdocument, hturn.allConcern.filter_self]
  · rw [share_of_other hserves hst hfind hdocument]
    exact .silent

/-- What the opening of its document adds to the conversation of a new session. -/
lemma beginning_step (hserves : r.Serves) (hfair : r.Fair) (hst : st.Opens u) :
    Beginning u r.slots.length (st.share u r.slots.length r) (st.act.run r).state := by
  have hold : r.find? u ≠ some r.slots.length := by
    intro hfind
    obtain ⟨s, hs, -⟩ := hserves u _ hfind
    rw [session?_length] at hs
    cases hs
  cases st with
  | openDocument v text path =>
    obtain rfl : v = u := hst
    have hself : decide ((Step.openDocument v text path).document? r = some v) = true := by
      simp [Step.document?]
    have hopens : (Step.openDocument v text path).Opens v := rfl
    rw [Step.share, if_pos ⟨hopens, rfl⟩, hself]
    rcases opening_openStep v text path hserves with ⟨o, ho, hrun⟩ | ⟨f, hrun⟩
    · rw [hrun]
      exact beginning_opening hfair ho
    · rw [hrun]
      exact .silent hold rfl
  | _ => exact hst.elim

/-- A document that is opened has no session, a new one, or, if it cannot be opened, the one it
had. -/
lemma find?_of_opens (hserves : r.Serves) (hst : st.Opens u)
    (h : (st.act.run r).state.find? u = some id) : id = r.slots.length ∨ r.find? u = some id := by
  cases st with
  | openDocument v text path =>
    obtain rfl : v = u := hst
    rcases opening_openStep v text path hserves with ⟨o, ho, hrun⟩ | ⟨f, hrun⟩
    · rw [hrun] at h
      rcases ho.find_cases with hnone | hsome
      · cases hnone.symm.trans h
      · exact .inl (Option.some.inj (h.symm.trans hsome))
    · rw [hrun] at h
      exact .inr h
  | _ => exact hst.elim

/-! ### Runs -/

/-- Nothing is added to a conversation unless its session serves the document or is new. -/
lemma share_eq_nil (hnew : ¬(st.Opens u ∧ id = r.slots.length)) (hserving : r.find? u ≠ some id) :
    st.share u id r = [] := by
  rw [Step.share, if_neg hnew, if_neg hserving]

lemma session?_of_step (hserves : r.Serves) (h : (st.act.run r).state.session? id = none) :
    r.session? id = none := by
  rcases hs : r.session? id with _ | s
  · rfl
  · obtain ⟨s', hs', -⟩ := uri_of_step hserves hs st
    rw [hs'] at h
    cases h

/-- A step in which nothing is added. -/
lemma Converses.of_silent {w : List Effect} (h : Converses u id r w) (hserves : r.Serves)
    (hfind : (st.act.run r).state.find? u = some id → r.find? u = some id) :
    Converses u id (st.act.run r).state w := by
  refine ⟨fun hs => h.fresh (session?_of_step hserves hs),
    fun hserving => h.talking (hfind hserving), fun s' hs' huri => ?_⟩
  rcases hs : r.session? id with _ | s
  · rw [h.fresh hs]
    exact isStart_nil
  · obtain ⟨t, ht, hturi⟩ := uri_of_step hserves hs st
    rw [hs', Option.some.injEq] at ht
    exact h.start s hs (by rw [← hturi, ← ht, huri])

lemma converses_step {w : List Effect} (hserves : r.Serves) (hfair : r.Fair)
    (h : Converses u id r w) (st : Step) :
    Converses u id (st.act.run r).state (w ++ st.share u id r) := by
  by_cases hnew : st.Opens u ∧ id = r.slots.length
  · -- the session may be new
    obtain ⟨hst, rfl⟩ := hnew
    have hbeginning := beginning_step hserves hfair hst
    rw [h.fresh (session?_length r), List.nil_append]
    exact ⟨hbeginning.eq_nil, hbeginning.goesOn, fun _ _ _ => hbeginning.isStart⟩
  by_cases hfind : r.find? u = some id
  · -- the session serves the document, and may lose it
    have hturn : Turn u id (st.share u id r) ((st.act.run r).state.find? u) := by
      by_cases hst : st.Opens u
      · cases st with
        | openDocument v text path =>
          obtain rfl : v = u := hst
          exact turn_openDocument hserves hfind text path
        | _ => exact hst.elim
      · exact turn_step hserves hfair hfind hst
    have hw := h.talking hfind
    obtain ⟨s, hs, -⟩ := hserves u id hfind
    refine ⟨fun hs' => ?_, fun hfind' => (hfind' ▸ hturn).goesOn hw,
      fun _ _ _ => hturn.isStart hw⟩
    rw [session?_of_step hserves hs'] at hs
    cases hs
  · rw [share_eq_nil hnew hfind, List.append_nil]
    refine h.of_silent hserves fun hfind' => ?_
    by_cases hst : st.Opens u
    · exact (find?_of_opens hserves hst hfind').resolve_left fun hid => hnew ⟨hst, hid⟩
    · exact find?_of_step hserves hst hfind'

lemma converses_run {steps : List Step} (hserves : r.Serves) (hfair : r.Fair)
    (h : Converses u id r []) (hsteps : ∀ st ∈ steps, st.IsFair) :
    Converses u id (after steps r) (conversation u id steps r) := by
  suffices hall : (after steps r).Serves ∧ (after steps r).Fair ∧
      Converses u id (after steps r) (conversation u id steps r) from hall.2.2
  induction steps using List.reverseRecOn with
  | nil => exact ⟨hserves, hfair, h⟩
  | append_singleton steps st ih =>
    obtain ⟨hserves', hfair', h'⟩ := ih fun st hst => hsteps st (List.mem_append_left _ hst)
    have hst := hsteps st (List.mem_append_right _ List.mem_cons_self)
    rw [after_append, conversation_append, after_singleton]
    refine ⟨(course_step hserves' st).serves hserves', hst.step hfair' hserves', ?_⟩
    simp only [conversation, List.append_nil]
    exact converses_step hserves' hfair' h' st

/-- If every write is taken or fails in a way that is handled, the conversation of every session is
the beginning of a word of the language. So every check comes right behind a clear, and between a
clear and its check nothing is shown; if the check is not taken, the report is next. A conversation
lasts while the session serves its document, which is while it is open if every shutdown ends all
sessions. What pipes are closed with matters for that only: left out are shutdowns that break off,
because closing a pipe has a fault that nobody handles. -/
theorem conversations_follow_language (config : Config) (steps : List Step)
    (hsteps : ∀ st ∈ steps, st.IsFair) :
    let r : Registry := { config }
    ∀ id s, (after steps r).session? id = some s →
      (∃ word ∈ language s.uri id, conversation s.uri id steps r <+: word) ∧
      (∀ xs n line ys, conversation s.uri id steps r = xs ++ .wrote id line :: ys →
        Query.IsCheck n line → clearing s.uri <:+ xs) ∧
      (∀ xs e ys, conversation s.uri id steps r = xs ++ .event (.statusClear s.uri) :: e :: ys →
        Answers s.uri id e) ∧
      (Completes steps r → ∀ before behind t, steps = before ++ behind →
        (after before r).session? id = some t →
          ((after before r).find? s.uri = some id ↔ t.closed = false)) := by
  intro r id s hs
  have hserves := (standing_start config).serves
  have hstart := (converses_run hserves (fair_start config) (converses_start s.uri id config)
    hsteps).start s hs rfl
  refine ⟨hstart, fun xs n line ys hw hline => hstart.clearing_suffix hw hline,
    fun xs e ys hw => hstart.answers hw, fun hcompletes before behind t hsplit ht => ?_⟩
  subst hsplit
  have hpaired := (paired_start config).after (completes_append.1 hcompletes).1
  have huri : t.uri = s.uri := by
    obtain ⟨s', hs', huri⟩ := uri_of_steps hpaired.serves ht behind
    rw [after_append, hs', Option.some.injEq] at hs
    rw [← huri, hs]
  constructor
  · intro hfind
    obtain ⟨t', ht', -, hopen⟩ := hpaired.serves _ id hfind
    rw [ht, Option.some.injEq] at ht'
    exact ht' ▸ hopen
  · intro hopen
    exact huri ▸ hpaired.owned id t ht hopen

end Steps

/-- The first session is given the text and asked for a check; the second check is not taken, which
is reported. -/
theorem conversations_follow_language_in_lateExits :
    (∀ st ∈ lateExits, st.IsFair) ∧
      (conversation "a" 0 lateExits { config := {} }).length = 8 ∧
      ∃ word ∈ language "a" 0, conversation "a" 0 lateExits { config := {} } <+: word := by
  have hfair : ∀ st ∈ lateExits, st.IsFair := by
    simp only [lateExits, List.forall_mem_cons, List.not_mem_nil, false_implies, implies_true,
      and_true]
    refine ⟨trivial, fun id c hc => ⟨hc.attached, fun text hmem => ?_⟩, trivial, trivial, trivial,
      trivial, trivial⟩
    rcases List.mem_cons.1 hmem with hmem | hmem
    · cases hmem
    · exact hc.write text (List.mem_cons_of_mem _ hmem)
  have huri : ((after lateExits { config := {} }).session? 0).map (·.uri) = some "a" := by
    decide +kernel
  obtain ⟨s, hs, hu⟩ := Option.map_eq_some_iff.1 huri
  exact ⟨hfair, by decide +kernel, hu ▸ (conversations_follow_language {} lateExits hfair 0 s hs).1⟩

end Bridge

end ProverLink
