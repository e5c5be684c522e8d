import ProverLink.Proofs.Courses

/-!
# What effects are about

Each step is about one document at most, and all that is seen in it is about this document and the
process of one of its sessions.
-/

namespace ProverLink

/-- Whether an event is about a document. The text of the log does not say which document it is
about: that is known from the step in which it is logged. -/
def EditorEvent.concerns (u : String) (logged : Bool) : EditorEvent → Bool
  | .publish v _ => v = u
  | .statusOk v _ => v = u
  | .statusClear v => v = u
  | .logError _ => logged

/-- Whether an effect is about a document or the process in a slot. -/
def Effect.concerns (u : String) (id : Nat) (logged : Bool) : Effect → Bool
  | .event e => e.concerns u logged
  | .wrote j _ => j = id
  | .spawned j _ _ => j = id
  | _ => false

/-- Whether all of a trace is about a document and the process in a slot. -/
def AllConcern (u : String) (id : Nat) (tr : List Effect) : Prop :=
  ∀ e ∈ tr, e.concerns u id true = true

section Filter

variable {u v : String} {id j : Nat} {tr : List Effect}

lemma AllConcern.append {tr' : List Effect} (h : AllConcern u id tr) (h' : AllConcern u id tr') :
    AllConcern u id (tr ++ tr') := by
  intro e he
  rcases List.mem_append.1 he with he | he
  · exact h e he
  · exact h' e he

lemma AllConcern.cons {e : Effect} (h : AllConcern u id tr) (he : e.concerns u id true = true) :
    AllConcern u id (e :: tr) := List.forall_mem_cons.2 ⟨he, h⟩

lemma AllConcern.filter_self (h : AllConcern u id tr) :
    tr.filter (Effect.concerns u id true) = tr := List.filter_eq_self.2 h

lemma EditorEvent.concerns_of_ne {e : EditorEvent} (h : e.concerns v true = true) (hv : v ≠ u) :
    e.concerns u false = false := by
  cases e with
  | publish w ds =>
    obtain rfl : w = v := of_decide_eq_true h
    exact decide_eq_false hv
  | statusOk w ranges =>
    obtain rfl : w = v := of_decide_eq_true h
    exact decide_eq_false hv
  | statusClear w =>
    obtain rfl : w = v := of_decide_eq_true h
    exact decide_eq_false hv
  | logError text => rfl

lemma Effect.concerns_of_ne {e : Effect} (h : e.concerns v j true = true) (hv : v ≠ u)
    (hj : j ≠ id) : e.concerns u id false = false := by
  cases e with
  | event e => exact EditorEvent.concerns_of_ne h hv
  | wrote i line =>
    obtain rfl : i = j := of_decide_eq_true h
    exact decide_eq_false hj
  | spawned i command directory =>
    obtain rfl : i = j := of_decide_eq_true h
    exact decide_eq_false hj
  | _ => rfl

lemma AllConcern.filter_other (h : AllConcern v j tr) (hv : v ≠ u) (hj : j ≠ id) :
    tr.filter (Effect.concerns u id false) = [] :=
  List.filter_eq_nil_iff.2 fun e he => by
    rw [Effect.concerns_of_ne (h e he) hv hj]
    exact Bool.false_ne_true

lemma allConcern_nil (u : String) (id : Nat) : AllConcern u id [] := nofun

lemma allConcern_clearing (u : String) (id : Nat) : AllConcern u id (clearing u) := by
  simp [AllConcern, clearing, Effect.concerns, EditorEvent.concerns]

lemma allConcern_report (u : String) (id : Nat) (message : String) :
    AllConcern u id (report u message) := by
  simp [AllConcern, report, Effect.concerns, EditorEvent.concerns]

lemma allConcern_wrote (u : String) (id : Nat) (line : List Char) :
    AllConcern u id [.wrote id line] := by
  simp [AllConcern, Effect.concerns]

lemma EditorEvent.Shows.concerns {e : EditorEvent} (h : e.Shows u) (logged : Bool) :
    e.concerns u logged = true := by
  cases e with
  | publish v ds => exact decide_eq_true h.1
  | statusOk v ranges => exact decide_eq_true h
  | statusClear v => exact h.elim
  | logError text => exact h.elim

lemma allConcern_shows {es : List EditorEvent} (h : ∀ e ∈ es, e.Shows u) (id : Nat) :
    AllConcern u id (es.map .event) := by
  intro e he
  obtain ⟨e', he', rfl⟩ := List.mem_map.1 he
  exact (h e' he').concerns true

end Filter

namespace Registry

section Queries

variable {r : Registry} {u : String} {id : Nat} {front : List Effect} {s s' : Session} {c : Child}
  {line : List Char} {o : Outcome Registry (Option Nat)}

lemma Refusing.allConcern (h : Refusing u id front s c r o) (hfront : AllConcern u id front) :
    AllConcern u id (visible o.trace) := by
  cases h with
  | lost e _ _ _ _ htrace =>
    rw [htrace]
    exact hfront.append (allConcern_report u id _)
  | cut _ _ _ _ _ _ htrace => rwa [htrace]
  | wild _ _ _ _ _ htrace => rwa [htrace]

lemma Sending.allConcern (h : Sending u id front s s' c line r o) (hfront : AllConcern u id front) :
    AllConcern u id (visible o.trace) := by
  cases h with
  | taken _ _ _ htrace =>
    rw [htrace]
    exact hfront.append (allConcern_wrote u id line)
  | refused h => exact h.allConcern hfront

/-- Opening a document is about this document and the slot that is new. -/
lemma Opening.allConcern {text : String} (h : Opening u text r o) :
    AllConcern u r.slots.length (visible o.trace) := by
  have hspawned : ∀ command directory,
      (Effect.spawned r.slots.length command directory).concerns u r.slots.length true = true :=
    fun _ _ => decide_eq_true rfl
  cases h with
  | stuck _ _ _ _ _ _ _ _ _ _ htrace =>
    rw [htrace]
    exact allConcern_nil _ _
  | unstarted message _ _ htrace =>
    rw [htrace]
    exact allConcern_report _ _ message
  | failed _ _ _ htrace =>
    rw [htrace]
    exact allConcern_nil _ _
  | pipeless _ _ _ _ _ _ htrace =>
    rw [htrace]
    exact (allConcern_nil _ _).cons (hspawned _ _)
  | refused _ _ _ _ ho _ _ _ htrace =>
    rw [htrace]
    exact (ho.allConcern (allConcern_nil _ _)).cons (hspawned _ _)
  | checked _ _ _ _ _ _ _ _ ho _ _ htrace =>
    rw [htrace]
    exact ((allConcern_wrote u _ _).append (ho.allConcern (allConcern_clearing u _))).cons
      (hspawned _ _)

end Queries

end Registry

namespace Bridge

open Registry

/-- The document that a step is about. -/
def Step.document? (r : Registry) : Step → Option String
  | .openDocument u _ _ => some u
  | .changeDocument u _ => some u
  | .closeDocument u => some u
  | .output id _ => (r.session? id).map (·.uri)
  | .exit id _ => (r.session? id).map (·.uri)
  | _ => none

instance Step.decidableOpens (u : String) : (st : Step) → Decidable (st.Opens u)
  | .openDocument v _ _ => inferInstanceAs (Decidable (v = u))
  | .changeDocument _ _ => .isFalse id
  | .closeDocument _ => .isFalse id
  | .shutdown => .isFalse id
  | .output _ _ => .isFalse id
  | .exit _ _ => .isFalse id
  | .reap _ => .isFalse id
  | .plan _ => .isFalse id
  | .world _ => .isFalse id

/-- What is seen in a step is nothing, or it is about the document of the step and the slot of one
of its sessions, which may be new. -/
inductive Speaks (st : Step) (r : Registry) (seen : List Effect) : Prop where
  | silent : seen = [] → Speaks st r seen
  | about (u : String) (id : Nat) : st.document? r = some u →
    ((∃ s, r.session? id = some s ∧ s.uri = u) ∨ st.Opens u ∧ id = r.slots.length) →
    AllConcern u id seen → Speaks st r seen

variable [Limits] {r : Registry}

lemma visible_closeDocument (hserves : r.Serves) (u : String) :
    visible ((Step.closeDocument u).act.run r).trace = [] := by
  rw [Step.act, Act.run_map, closeDocument, Act.run_log_bind]
  rcases close_cases u hserves with
    ⟨tr, _, _, htr, -, hrun⟩ | ⟨_, _, _, _, _, -, -, -, -, -, hrun⟩
  · rw [hrun, visible_notice, htr]
  · rw [hrun]
    rfl

lemma visible_shutdown (r : Registry) : visible (Step.shutdown.act.run r).trace = [] := by
  rw [Step.act, Act.run_map]
  obtain ⟨gone, -, hsilent, -⟩ := ends_shutdown r
  exact hsilent

lemma visible_reap (id : Nat) (r : Registry) : visible ((Step.reap id).act.run r).trace = [] := by
  rw [Step.act, Act.run_map]
  exact (quiet_reap id r).silent

lemma speaks_changeDocument (hserves : r.Serves) (u text : String) :
    Speaks (.changeDocument u text) r (visible ((Step.changeDocument u text).act.run r).trace) := by
  rw [Step.act, Act.run_map]
  cases hfind : r.find? u with
  | none =>
    obtain ⟨notice, hrun⟩ := run_changeDocument_of_none hfind text
    rw [hrun]
    exact .silent rfl
  | some id =>
    obtain ⟨s, hs, hu, -⟩ := hserves u id hfind
    obtain ⟨c, hc⟩ := exists_child_of_session hs
    have hsend := sending_changeDocument hfind hs hc hu (Query.toLine_fullBuffer text _)
    exact .about u id rfl (.inl ⟨s, hs, hu⟩) (hsend.allConcern (allConcern_clearing u id))

lemma speaks_output (id : Nat) (text : List Char) (r : Registry) :
    Speaks (.output id text) r (visible ((Step.output id text).act.run r).trace) := by
  rw [Step.act, Act.run_map]
  cases hearing_handleOutput id text r with
  | deaf _ ho =>
    rw [ho]
    exact .silent rfl
  | @heard s _ es _ hs _ _ _ hes htrace =>
    dsimp only
    rw [htrace]
    exact .about s.uri id (by rw [Step.document?, hs]; rfl) (.inl ⟨s, hs, rfl⟩)
      (allConcern_shows hes.shows id)

lemma speaks_exit (id : Nat) (code : Option Int) (r : Registry) :
    Speaks (.exit id code) r (visible ((Step.exit id code).act.run r).trace) := by
  have habout : ∀ {s : Session} {seen : List Effect}, r.session? id = some s →
      AllConcern s.uri id seen → Speaks (.exit id code) r seen := by
    intro s seen hs hseen
    exact .about s.uri id (by rw [Step.document?, hs]; rfl) (.inl ⟨s, hs, rfl⟩) hseen
  rw [Step.act, Act.run_map]
  dsimp only
  cases exiting_handleExit id code r with
  | deaf _ ho =>
    rw [ho]
    exact .silent rfl
  | broken _ _ _ _ _ _ _ _ htrace => exact .silent htrace
  | lost es _ hs _ _ _ _ _ _ _ hes htrace =>
    rw [htrace]
    exact habout hs ((allConcern_shows hes.shows id).append (allConcern_report _ id _))
  | cut _ es _ hs _ _ _ _ _ _ _ hes htrace =>
    rw [htrace]
    exact habout hs (allConcern_shows hes.shows id)
  | stray es _ hs _ _ _ _ hes htrace =>
    rw [htrace]
    exact habout hs (allConcern_shows hes.shows id)

lemma speaks_step (hserves : r.Serves) (st : Step) :
    Speaks st r (visible (st.act.run r).trace) := by
  cases st with
  | openDocument u text path =>
    rcases opening_openStep u text path hserves with ⟨o, ho, hrun⟩ | ⟨f, hrun⟩
    · rw [hrun]
      exact .about u r.slots.length rfl (.inr ⟨rfl, rfl⟩) ho.allConcern
    · rw [hrun]
      exact .silent rfl
  | changeDocument u text => exact speaks_changeDocument hserves u text
  | closeDocument u => exact .silent (visible_closeDocument hserves u)
  | shutdown => exact .silent (visible_shutdown r)
  | output id text => exact speaks_output id text r
  | exit id code => exact speaks_exit id code r
  | reap id => exact .silent (visible_reap id r)
  | plan p => exact .silent rfl
  | world change => exact .silent rfl

end Bridge

end ProverLink
