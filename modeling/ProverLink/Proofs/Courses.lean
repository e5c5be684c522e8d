import ProverLink.Proofs.Operations

/-!
# Courses of steps

Each step takes one of four courses: the world changes, there are some moves about one document, a
document gets a new session, or all documents are closed. The standing invariants of a run follow
from that.
-/

namespace ProverLink.Bridge

open Registry

/-- What holds between the steps of a run whose pipes are tame. -/
structure Standing (r : Registry) : Prop where
  tame : r.Tame
  serves : r.Serves
  owned : r.Owned
  settled : ∀ u, r.Settled u

lemma Standing.world {r r' : Registry} (h : Standing r) (hfind : ∀ v, r'.find? v = r.find? v)
    (hsession : ∀ j, r'.session? j = r.session? j) (htame : r'.Tame) (hserves : r'.Serves) :
    Standing r' := by
  refine ⟨htame, hserves, fun j s hs hopen => ?_, fun v j s hj hs => ?_⟩
  · rw [hsession] at hs
    rw [hfind]
    exact h.owned j s hs hopen
  · rw [hfind] at hj
    rw [hsession] at hs
    exact h.settled v j s hj hs

/-- At the beginning there are no documents and no processes. -/
lemma standing_start (config : Config) : Standing { config } where
  tame := ⟨⟨by simp [SpawnPlan.child, Stdin.WritesWell], rfl⟩, by simp [child?],
    by simp [session?, job?]⟩
  serves := by simp [Serves, find?]
  owned := by simp [Owned, session?, job?]
  settled := fun u => settled_of_none rfl

/-! ### Courses -/

variable [Limits]

/-- What a step means for the diagnostics. A session that is new in a slot starts with none. -/
def Step.receipts (r : Registry) : Step → List Receipt
  | .changeDocument uri _ => (r.find? uri).toList.map .cleared
  | .output id text => taken r id fun s => (s.lines.feed text).1
  | .exit id _ => taken r id fun s => s.lines.flush.1
  | _ => []

/-- The course of a step. -/
inductive Course (st : Step) (r : Registry) : List Effect → List Receipt → Registry → Prop where
  | world {r' : Registry} : (∀ v, r'.find? v = r.find? v) → (∀ j, r'.session? j = r.session? j) →
    (st.IsTame → r.Tame → r'.Tame) → Course st r [] [] r'
  | moves {r' : Registry} {tr : List Effect} {log : List Receipt} (u : String) :
    Moves u r tr log r' → Course st r tr log r'
  | opens {r₁ r₂ r' : Registry} {tr tr' : List Effect} {log : List Receipt} (u : String)
    (id : Nat) : st.Opens u → Moves u r tr [] r₁ → Adopts u id r₁ r₂ →
    (log = [] ∨ log = [.cleared id]) →
    Moves u r₂ tr' log r' → (r₂.Tame → r'.Settled u) → Course st r (tr ++ tr') [] r'
  | closes {r' : Registry} (gone : List Nat) : st = .shutdown → (∀ v, r'.find? v = none) →
    (∀ j, r'.session? j = if j ∈ gone then (r.session? j).map Session.ended else r.session? j) →
    (r.Tame → r'.Tame) →
    ((Bridge.shutdown.run r).result = .ok () → ∀ u id, r.find? u = some id → id ∈ gone) →
    (r.Tame → (Bridge.shutdown.run r).result = .ok ()) → Course st r [] [] r'

/-! ### Every step has a course -/

lemma course_shutdown (r : Registry) :
    Course .shutdown r (visible (shutdown.run r).trace) [] (shutdown.run r).state := by
  obtain ⟨gone, hends, hsilent, hall, hok⟩ := ends_shutdown r
  rw [hsilent]
  exact .closes gone rfl hends.find hends.session
    (fun h => hends.tame ⟨h.plan, h.pipes, h.wired⟩) hall hok

/-- A document that is opened may have lost a session before it gets a new one. If it gets none, or
loses it at once, it has none in the end. -/
lemma course_opening {st : Step} {u text : String} {r : Registry}
    {o : Outcome Registry (Option Nat)} (hst : st.Opens u) (h : Opening u text r o) :
    Course st r (visible o.trace) [] o.state := by
  cases h with
  | stuck id s c _ hfind hs hc _ hr _ htrace =>
    rw [htrace]
    exact .moves u (.single (.retired hfind (hr.retires hs hc (.shut c))))
  | unstarted message hvacates _ htrace =>
    rw [htrace]
    refine .moves u (hvacates.moves.report ?_ message)
    rw [hvacates.find, if_pos rfl]
  | failed _ hvacates _ htrace =>
    rw [htrace]
    exact .moves u hvacates.moves
  | @pipeless r₁ _ command directory hvacates hstate _ htrace =>
    rw [htrace, hstate]
    exact .moves u (hvacates.moves.snoc (.spawned _ command directory (alike_extend r₁)))
  | @refused r₁ r₂ o₁ command directory hvacates hseats hrefused hattached hstate _ htrace =>
    obtain ⟨hfind, hs, hc⟩ := hseats.views hvacates
    have hspawned := hvacates.moves.snoc
      (.spawned r.slots.length command directory (.refl r₁))
    have hcounted := revises_updateSession hfind hs hc fun _ => { uri := u, lastQuery := 1 }
    have hset := hcounted.sets hs hc (.refl _) hfind
    obtain ⟨behind, htrace₁, hmoves, hgone⟩ := hrefused.moves hcounted
    rw [htrace, htrace₁, hstate]
    exact .opens u r.slots.length hst hspawned (hseats.adopts hvacates hattached) (.inl rfl)
      ((Moves.single (.refused hfind hs rfl rfl hset)).trans hmoves)
      fun htame => settled_of_none (hgone (hset.tame htame))
  | @checked r₁ r₂ r₃ o₂ _ _ command directory hvacates hseats hline hwrite hadded hline' hsend
      hstate _ htrace =>
    obtain ⟨hfind, hs, hc⟩ := hseats.views hvacates
    have hspawned := hvacates.moves.snoc
      (.spawned r.slots.length command directory (.refl r₁))
    have hset := hadded.sets hs hc (.tried _) hfind
    obtain ⟨hmoves, hlast⟩ :=
      Sending.moves hadded.find_self hadded.session hadded.child rfl hline' hsend
    rw [htrace, hstate]
    exact .opens u r.slots.length hst hspawned
      (hseats.adopts hvacates (Child.attached_of_writeFault? hwrite)) (.inr rfl)
      ((Moves.single (.added text hfind hs rfl rfl hline hset)).trans hmoves)
      fun htame j t hj ht => Nat.le_of_eq (hlast (hset.tame htame) j t hj ht).symm

lemma course_openDocument {r : Registry} (hserves : r.Serves) (u text : String)
    (path : Option Path) :
    Course (.openDocument u text path) r (visible ((Step.openDocument u text path).act.run r).trace)
      [] ((Step.openDocument u text path).act.run r).state := by
  rcases opening_openStep u text path hserves with ⟨o, ho, hrun⟩ | ⟨f, hrun⟩
  · rw [hrun]
    exact course_opening rfl ho
  · rw [hrun]
    exact .moves u .refl

/-- What each step does. -/
lemma course_step {r : Registry} (h : r.Serves) (st : Step) :
    Course st r (visible (st.act.run r).trace) (st.receipts r) (st.act.run r).state := by
  cases st with
  | openDocument u text path => exact course_openDocument h u text path
  | changeDocument u text =>
    rw [Step.act, Act.run_map, Step.receipts]
    cases hfind : r.find? u with
    | none =>
      obtain ⟨notice, hrun⟩ := run_changeDocument_of_none hfind text
      rw [hrun]
      exact .moves u .refl
    | some id =>
      obtain ⟨s, hs, hu, _⟩ := h u id hfind
      obtain ⟨c, hc⟩ := exists_child_of_session hs
      have hline := Query.toLine_fullBuffer text (s.lastQuery + 1)
      exact .moves u
        (Sending.moves hfind hs hc hu hline (sending_changeDocument hfind hs hc hu hline)).1
  | closeDocument u =>
    rw [Step.act, Act.run_map, closeDocument, Act.run_log_bind]
    exact .moves u (moves_close h u)
  | shutdown =>
    rw [Step.act, Act.run_map]
    exact course_shutdown r
  | output id text =>
    obtain ⟨u, hmoves⟩ := (hearing_handleOutput id text r).moves
    rw [Step.act, Act.run_map]
    exact .moves u hmoves
  | exit id code =>
    obtain ⟨u, hmoves⟩ := (exiting_handleExit id code r).moves
    rw [Step.act, Act.run_map]
    exact .moves u hmoves
  | reap id =>
    rw [Step.act, Act.run_map, (quiet_reap id r).silent]
    exact .moves "" (.single (.idle (quiet_reap id r).alike))
  | plan p =>
    rw [Step.act, Act.run_map]
    exact .world (fun _ => rfl) (fun _ => rfl) fun hp h => ⟨hp, h.pipes, h.wired⟩
  | world change =>
    rw [Step.act, Act.run_map]
    have hviews := mapChildren_views change r
    refine .world (fun _ => rfl) (fun j => (hviews j).1) fun hchange h => ⟨h.plan, ?_, ?_⟩
    · intro j c' hc'
      rw [Act.run_modify, (hviews j).2] at hc'
      obtain ⟨c, hc, rfl⟩ := Option.map_eq_some_iff.1 hc'
      exact (hchange j c (h.pipes j c hc)).1
    · intro j s c' hs hc'
      rw [Act.run_modify, (hviews j).1] at hs
      rw [Act.run_modify, (hviews j).2] at hc'
      obtain ⟨c, hc, rfl⟩ := Option.map_eq_some_iff.1 hc'
      rw [(hchange j c (h.pipes j c hc)).2]
      exact h.wired j s c hs hc

/-! ### Standing invariants -/

variable {st : Step} {r r' : Registry} {tr : List Effect} {log : List Receipt}

/-- What is kept by moves, by new sessions of documents that are opened, and by a shutdown, is kept
by every course. -/
lemma Course.keeps {P : Registry → Prop} (hc : Course st r tr log r')
    (hworld : ∀ {r r' : Registry}, P r → (∀ v, r'.find? v = r.find? v) →
      (∀ j, r'.session? j = r.session? j) → P r')
    (hmove : ∀ {u : String} {r r' : Registry} {tr : List Effect} {log : List Receipt}, P r →
      Move u r tr log r' → P r')
    (hadopts : ∀ {u : String} {id : Nat} {r r' : Registry}, st.Opens u → P r → Adopts u id r r' →
      P r')
    (hcloses : ∀ gone : List Nat, st = .shutdown → (∀ v, r'.find? v = none) →
      (∀ j, r'.session? j = if j ∈ gone then (r.session? j).map Session.ended else r.session? j) →
      ((shutdown.run r).result = .ok () → ∀ u id, r.find? u = some id → id ∈ gone) → P r')
    (h : P r) : P r' := by
  cases hc with
  | world hfind hsession _ => exact hworld h hfind hsession
  | moves u hmoves => exact hmoves.keeps hmove h
  | opens u id hopens hbefore hnew _ hbehind _ =>
    exact hbehind.keeps hmove (hadopts hopens (hbefore.keeps hmove h) hnew)
  | closes gone hst hfind hsession _ hall _ => exact hcloses gone hst hfind hsession hall

lemma Course.serves (h : Course st r tr log r') (hr : r.Serves) : r'.Serves := by
  refine h.keeps (fun h hfind hsession v j hj => ?_) Serves.move (fun _ h => h.adopts) ?_ hr
  · rw [hfind] at hj
    rw [hsession]
    exact h v j hj
  · intro gone _ hfind _ _ v j hj
    rw [hfind] at hj
    cases hj

lemma serves_after (hr : r.Serves) (steps : List Step) : (after steps r).Serves := by
  induction steps generalizing r with
  | nil => exact hr
  | cons st rest ih => exact ih ((course_step hr st).serves hr)

lemma Course.tidy (h : Course st r tr log r') (hr : r.Tidy) : r'.Tidy := by
  refine h.keeps (fun h _ hsession j s hs => ?_) Tidy.move (fun _ h => h.adopts) ?_ hr
  · rw [hsession] at hs
    exact h j s hs
  · intro gone _ _ hsession _ j s hs
    rw [hsession] at hs
    split at hs
    · obtain ⟨s', hs', rfl⟩ := Option.map_eq_some_iff.1 hs
      exact hr j s' hs'
    · exact hr j s hs

lemma Standing.course (h : Standing r) (hst : st.IsTame) (hc : Course st r tr log r') :
    Standing r' := by
  have hserves := hc.serves h.serves
  cases hc with
  | world hfind hsession htame => exact h.world hfind hsession (htame hst h.tame) hserves
  | moves u hmoves =>
    exact ⟨hmoves.keeps Tame.move h.tame, hserves, hmoves.keeps Owned.move h.owned,
      fun v => hmoves.keeps Settled.move (h.settled v)⟩
  | opens u id _ hbefore hadopts _ hbehind hsettled =>
    have htame := hadopts.tame (hbefore.keeps Tame.move h.tame)
    have howned := (hbefore.keeps Owned.move h.owned).adopts hadopts
    refine ⟨hbehind.keeps Tame.move htame, hserves, hbehind.keeps Owned.move howned, fun v => ?_⟩
    by_cases hv : v = u
    · exact hv ▸ hsettled htame
    · have hv₁ := (hbefore.keeps Settled.move (h.settled v)).adopts
        (hbefore.keeps Serves.move h.serves) hv hadopts
      exact hbehind.keeps Settled.move hv₁
  | closes gone _ hfind hsession htame hall hok =>
    refine ⟨htame h.tame, hserves, fun j s hs hopen => ?_, fun v => settled_of_none (hfind v)⟩
    -- every open session was found before, so it is among those that have ended
    rw [hsession] at hs
    split at hs
    · obtain ⟨s', _, rfl⟩ := Option.map_eq_some_iff.1 hs
      cases hopen
    · rename_i hj
      exact absurd (hall (hok h.tame) _ j (h.owned j s hs hopen)) hj

lemma Standing.step (h : Standing r) (hst : st.IsTame) : Standing (st.act.run r).state :=
  h.course hst (course_step h.serves st)

end ProverLink.Bridge
