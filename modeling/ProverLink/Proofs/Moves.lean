import ProverLink.Proofs.Callbacks

/-!
# Moves

Every step is a sequence of a few kinds of moves, all about one document. A move says how the
documents and the sessions change, what is seen of it, and what it means for the diagnostics.
Invariants of runs are proved move by move.
-/

namespace ProverLink

/-- What matters for the diagnostics in a slot: they are cleared, or a line is acted upon when some
check is the last one. -/
inductive Receipt where
  | cleared (slot : Nat)
  | line (slot : Nat) (check : Int) (text : List Char)

namespace Registry

/-! ### How registries differ -/

/-- The documents and the sessions are the same; processes and threads may differ. -/
structure Alike (r r' : Registry) : Prop where
  find : ∀ v, r'.find? v = r.find? v
  session : ∀ j, r'.session? j = r.session? j
  tame : r.Tame → r'.Tame

/-- The session in one slot is another. -/
structure Sets (id : Nat) (s : Session) (r r' : Registry) : Prop where
  find : ∀ v, r'.find? v = r.find? v
  session : ∀ j, r'.session? j = if j = id then some s else r.session? j
  tame : r.Tame → r'.Tame

/-- The sessions in some slots have ended. -/
structure Ends (ids : List Nat) (r r' : Registry) : Prop where
  find : ∀ v, r'.find? v = r.find? v
  session : ∀ j, r'.session? j = if j ∈ ids then (r.session? j).map Session.ended else r.session? j
  tame : r.Tame → r'.Tame

/-- A document has lost its session, which has ended. -/
structure Retires (u : String) (id : Nat) (r r' : Registry) : Prop where
  find : ∀ v, r'.find? v = if v = u then none else r.find? v
  session : ∀ j, r'.session? j = if j = id then (r.session? j).map Session.ended else r.session? j
  tame : r.Tame → r'.Tame

/-- A document without a session has got one in an empty slot. -/
structure Adopts (u : String) (id : Nat) (r r' : Registry) : Prop where
  free : r.find? u = none
  empty : r.session? id = none
  find : ∀ v, r'.find? v = if v = u then some id else r.find? v
  session : ∀ j, r'.session? j = if j = id then some { uri := u } else r.session? j
  tame : r.Tame → r'.Tame

lemma Adopts.ne_of_session {u : String} {id j : Nat} {r r' : Registry} (h : Adopts u id r r')
    {s : Session} (hs : r.session? j = some s) : j ≠ id := by
  rintro rfl
  rw [h.empty] at hs
  cases hs

lemma Alike.refl (r : Registry) : Alike r r := ⟨fun _ => rfl, fun _ => rfl, id⟩

lemma Alike.trans {r r' r'' : Registry} (h : Alike r r') (h' : Alike r' r'') : Alike r r'' where
  find v := (h'.find v).trans (h.find v)
  session j := (h'.session j).trans (h.session j)
  tame := h'.tame ∘ h.tame

/-- Tameness looks at the processes, at the plan, and at which slots have sessions. -/
lemma Tame.of_views {r r' : Registry} (h : r.Tame) (hplan : r'.plan = r.plan)
    (hchild : ∀ j c', r'.child? j = some c' → ∃ c, r.child? j = some c ∧
      (c.stdin.IsTame → c'.stdin.IsTame) ∧ c'.stdin.attached = c.stdin.attached)
    (hsession : ∀ j s', r'.session? j = some s' → ∃ s, r.session? j = some s) : r'.Tame where
  plan := hplan ▸ h.plan
  pipes j c' hc' := by
    obtain ⟨c, hc, htame, _⟩ := hchild j c' hc'
    exact htame (h.pipes j c hc)
  wired j s' c' hs' hc' := by
    obtain ⟨c, hc, _, hattached⟩ := hchild j c' hc'
    obtain ⟨s, hs⟩ := hsession j s' hs'
    rw [hattached]
    exact h.wired j s c hs hc

lemma alike_updateChild (r : Registry) (id : Nat) {f : Child → Child}
    (htame : ∀ c, c.stdin.IsTame → (f c).stdin.IsTame)
    (hattached : ∀ c, (f c).stdin.attached = c.stdin.attached) : Alike r (r.updateChild id f) where
  find _ := rfl
  session _ := session?_updateChild ..
  tame h := by
    refine h.of_views rfl (fun j c' hc' => ?_) fun j s' hs' => ⟨s', by simpa using hs'⟩
    rw [child?_updateChild] at hc'
    split at hc'
    · obtain ⟨c, hc, rfl⟩ := Option.map_eq_some_iff.1 hc'
      exact ⟨c, hc, htame c, hattached c⟩
    · exact ⟨c', hc', fun h => h, rfl⟩

lemma alike_updateJob (r : Registry) (id : Nat) {f : Job → Job}
    (hf : ∀ job, (f job).session = job.session) : Alike r (r.updateJob id f) := by
  have hsession : ∀ j, (r.updateJob id f).session? j = r.session? j := by
    intro j
    rw [session?_updateJob]
    split
    · simp only [hf]
      rfl
    · rfl
  refine ⟨fun _ => rfl, hsession, fun h => ?_⟩
  refine h.of_views rfl (fun j c' hc' => ?_) fun j s' hs' => ⟨s', by rw [← hsession j, hs']⟩
  exact ⟨c', by simpa using hc', fun h => h, rfl⟩

lemma tame_updateSession {r : Registry} (h : r.Tame) (id : Nat) (f : Session → Session) :
    (r.updateSession id f).Tame := by
  refine h.of_views rfl (fun j c' hc' => ⟨c', by simpa using hc', fun h => h, rfl⟩)
    fun j s' hs' => ?_
  rw [session?_updateSession] at hs'
  split at hs'
  · obtain ⟨s, hs, _⟩ := Option.map_eq_some_iff.1 hs'
    exact ⟨s, hs⟩
  · exact ⟨s', hs'⟩

lemma sets_updateSession {r : Registry} {id : Nat} {s : Session} (h : r.session? id = some s)
    (f : Session → Session) : Sets id (f s) r (r.updateSession id f) where
  find _ := rfl
  session j := by
    rw [session?_updateSession]
    by_cases hj : j = id
    · subst hj
      simp [h]
    · simp [hj, Ne.symm hj]
  tame h := tame_updateSession h id f

/-! ### What holds of registries -/

/-- Each open session serves its document. -/
def Owned (r : Registry) : Prop :=
  ∀ id s, r.session? id = some s → s.closed = false → r.find? s.uri = some id

/-- The session of a document, if there is one, has been asked for a check. -/
def Settled (u : String) (r : Registry) : Prop :=
  ∀ id s, r.find? u = some id → r.session? id = some s → 2 ≤ s.lastQuery

/-- No pending text has a line break. -/
def Tidy (r : Registry) : Prop := ∀ id s, r.session? id = some s → '\n' ∉ s.lines.pending

lemma settled_of_none {u : String} {r : Registry} (h : r.find? u = none) : r.Settled u := by
  intro id s hfind _
  rw [h] at hfind
  cases hfind

variable {u : String} {r r' : Registry}

lemma Tidy.adopts {id : Nat} (h : r.Tidy) (hr : Adopts u id r r') : r'.Tidy := by
  intro j t ht
  rw [hr.session] at ht
  split at ht
  · cases ht
    simp
  · exact h j t ht

lemma Settled.adopts {v : String} {id : Nat} (h : r.Settled v) (hserves : r.Serves) (hne : v ≠ u)
    (hr : Adopts u id r r') : r'.Settled v := by
  intro j t hj ht
  rw [hr.find, if_neg hne] at hj
  obtain ⟨s, hs, _⟩ := hserves v j hj
  rw [hr.session, if_neg (hr.ne_of_session hs)] at ht
  exact h j t hj ht

lemma Serves.adopts {id : Nat} (h : r.Serves) (hr : Adopts u id r r') : r'.Serves := by
  intro v j hv
  rw [hr.find] at hv
  split at hv
  · rename_i hvu
    cases hv
    exact ⟨_, by rw [hr.session, if_pos rfl], hvu.symm, rfl⟩
  · obtain ⟨s, hs, hsu, hsc⟩ := h v j hv
    exact ⟨s, by rw [hr.session, if_neg (hr.ne_of_session hs), hs], hsu, hsc⟩

lemma Owned.adopts {id : Nat} (h : r.Owned) (hr : Adopts u id r r') : r'.Owned := by
  intro j s hs hopen
  rw [hr.session] at hs
  rw [hr.find]
  split at hs
  · rename_i hj
    cases hs
    rw [if_pos rfl, hj]
  · have hfound := h j s hs hopen
    have hne : s.uri ≠ u := by
      intro hu
      rw [hu, hr.free] at hfound
      cases hfound
    rw [if_neg hne]
    exact hfound

end Registry

/-! ### Moves -/

open Registry

variable [Limits]

/-- One move about a document: from a registry to another, with what is seen and what it means for
the diagnostics. -/
inductive Move (u : String) (r : Registry) : List Effect → List Receipt → Registry → Prop where
  /-- Processes and threads go on. -/
  | idle {r' : Registry} : Alike r r' → Move u r [] [] r'
  /-- A process is started. -/
  | spawned {r' : Registry} (id : Nat) (command : List String) (directory : String) :
    Alike r r' → Move u r [.spawned id command directory] [] r'
  /-- The editor is told that the document has no checker. -/
  | reported {r' : Registry} (d : Diagnostic) (message : String) : Alike r r' → r.find? u = none →
    Move u r [.event (.publish u [d]), .event (.logError message)] [] r'
  /-- The document loses its session. -/
  | retired {r' : Registry} {id : Nat} : r.find? u = some id → Retires u id r r' → Move u r [] [] r'
  /-- A new checker is given the text. -/
  | added {r' : Registry} {id : Nat} {s : Session} {line : List Char} (text : String) :
    r.find? u = some id → r.session? id = some s → s.uri = u → s.lastQuery = 0 →
    ((Query.vfsAdd text).stamp 1).toLine = .ok line →
    Sets id { s with lastQuery := 1 } r r' → Move u r [.wrote id line] [] r'
  /-- A new checker does not take the text. -/
  | refused {r' : Registry} {id : Nat} {s : Session} :
    r.find? u = some id → r.session? id = some s → s.uri = u → s.lastQuery = 0 →
    Sets id { s with lastQuery := 1 } r r' → Move u r [] [] r'
  /-- The diagnostics are cleared, and the checker is asked to check the text. -/
  | checked {r' : Registry} {id : Nat} {s : Session} {line : List Char} (text : String) :
    r.find? u = some id → r.session? id = some s → s.uri = u →
    ((Query.fullBuffer text).stamp (s.lastQuery + 1)).toLine = .ok line →
    Sets id { s with diagnostics := [], lastQuery := s.lastQuery + 1,
                     checkQuery := (s.lastQuery + 1 : Nat) } r r' →
    Move u r [.event (.publish u []), .event (.statusClear u), .wrote id line] [.cleared id] r'
  /-- The diagnostics are cleared, but the checker takes no query. -/
  | unchecked {r' : Registry} {id : Nat} {s : Session} :
    r.find? u = some id → r.session? id = some s → s.uri = u →
    Sets id { s with diagnostics := [], lastQuery := s.lastQuery + 1 } r r' →
    Move u r [.event (.publish u []), .event (.statusClear u)] [.cleared id] r'
  /-- A line of the checker is acted upon. -/
  | heard {r' : Registry} {id : Nat} {s : Session} (line : List Char) :
    r.session? id = some s → s.uri = u → s.closed = false →
    Sets id { s with diagnostics :=
                s.diagnostics ++ (Session.yield s.checkQuery line).diagnostics } r r' →
    Move u r (((Session.yield s.checkQuery line).events u s.diagnostics).map .event)
      [.line id s.checkQuery line] r'
  /-- Another text is pending, and it has no line break. -/
  | buffered {r' : Registry} {id : Nat} {s : Session} (b : LineBuffer) :
    r.session? id = some s → s.uri = u → '\n' ∉ b.pending → Sets id (s.withLines b) r r' →
    Move u r [] [] r'

/-- What moves do to documents and sessions: nothing, or a session ends, or it goes on with at least
as many queries and the same text pending, or one without a line break. -/
lemma Move.shape {u : String} {r r' : Registry} {tr : List Effect} {log : List Receipt}
    (h : Move u r tr log r') :
    Alike r r' ∨ (∃ id, r.find? u = some id ∧ Retires u id r r') ∨
      ∃ id s s', r.session? id = some s ∧ s.uri = u ∧ Sets id s' r r' ∧ s'.uri = s.uri ∧
        s'.closed = s.closed ∧ s.lastQuery ≤ s'.lastQuery ∧
        (s'.lines = s.lines ∨ '\n' ∉ s'.lines.pending) := by
  cases h with
  | idle h => exact .inl h
  | spawned _ _ _ h => exact .inl h
  | reported _ _ h _ => exact .inl h
  | retired hfind h => exact .inr (.inl ⟨_, hfind, h⟩)
  | added _ _ hs hu h0 _ h =>
    exact .inr (.inr ⟨_, _, _, hs, hu, h, rfl, rfl, by simp [h0], .inl rfl⟩)
  | refused _ hs hu h0 h => exact .inr (.inr ⟨_, _, _, hs, hu, h, rfl, rfl, by simp [h0], .inl rfl⟩)
  | checked _ _ hs hu _ h => exact .inr (.inr ⟨_, _, _, hs, hu, h, rfl, rfl, by simp, .inl rfl⟩)
  | unchecked _ hs hu h => exact .inr (.inr ⟨_, _, _, hs, hu, h, rfl, rfl, by simp, .inl rfl⟩)
  | heard _ hs hu _ h => exact .inr (.inr ⟨_, _, _, hs, hu, h, rfl, rfl, Nat.le_refl _, .inl rfl⟩)
  | buffered _ hs hu hb h =>
    exact .inr (.inr ⟨_, _, _, hs, hu, h, rfl, rfl, Nat.le_refl _, .inr hb⟩)

/-- Some moves about a document. -/
inductive Moves (u : String) (r : Registry) : List Effect → List Receipt → Registry → Prop where
  | refl : Moves u r [] [] r
  | snoc {r' r'' : Registry} {tr tr' : List Effect} {log log' : List Receipt} :
    Moves u r tr log r' → Move u r' tr' log' r'' → Moves u r (tr ++ tr') (log ++ log') r''

namespace Moves

variable {u : String} {r r' r'' : Registry} {tr tr' : List Effect} {log log' : List Receipt}

lemma single (h : Move u r tr log r') : Moves u r tr log r' := snoc refl h

lemma trans (h : Moves u r tr log r') (h' : Moves u r' tr' log' r'') :
    Moves u r (tr ++ tr') (log ++ log') r'' := by
  induction h' with
  | refl => simpa using h
  | snoc _ hmove ih => simpa only [List.append_assoc] using snoc ih hmove

/-- What each move keeps, some moves keep. -/
lemma keeps {P : Registry → Prop}
    (hmove : ∀ {r r' : Registry} {tr : List Effect} {log : List Receipt},
      P r → Move u r tr log r' → P r')
    (h : Moves u r tr log r') (hr : P r) : P r' := by
  induction h with
  | refl => exact hr
  | snoc _ hlast ih => exact hmove ih hlast

/-- The loss of a session is reported. -/
lemma report (h : Moves u r tr log r') (hfree : r'.find? u = none) (message : String) :
    Moves u r (tr ++ ProverLink.report u message) log r' := by
  have hreported := h.snoc (.reported (.ofFailure message) (u ++ ": " ++ message) (.refl r') hfree)
  rwa [List.append_nil] at hreported

end Moves

/-! ### What every move keeps -/

namespace Registry

variable {u : String} {r r' : Registry} {tr : List Effect} {log : List Receipt}

lemma Tame.move (h : r.Tame) (hmove : Move u r tr log r') : r'.Tame := by
  rcases hmove.shape with ha | ⟨id, _, hr⟩ | ⟨id, s, s', _, _, hset, _⟩
  · exact ha.tame h
  · exact hr.tame h
  · exact hset.tame h

lemma Serves.move (h : r.Serves) (hmove : Move u r tr log r') : r'.Serves := by
  intro v j hv
  rcases hmove.shape with ha | ⟨id, hfind, hr⟩ | ⟨id, s, s', hs, _, hset, huri, hclosed, _⟩
  · rw [ha.find] at hv
    rw [ha.session]
    exact h v j hv
  · rw [hr.find] at hv
    split at hv
    · cases hv
    · rename_i hne
      have hj : j ≠ id := fun hj => hne (h.injective hv (hj ▸ hfind))
      rw [hr.session, if_neg hj]
      exact h v j hv
  · rw [hset.find] at hv
    obtain ⟨t, ht, htu, htc⟩ := h v j hv
    rw [hset.session]
    by_cases hj : j = id
    · subst hj
      rw [hs, Option.some.injEq] at ht
      subst ht
      exact ⟨s', by simp, huri.trans htu, hclosed.trans htc⟩
    · exact ⟨t, by simpa [hj] using ht, htu, htc⟩

lemma Owned.move (h : r.Owned) (hmove : Move u r tr log r') : r'.Owned := by
  intro j t ht hopen
  rcases hmove.shape with ha | ⟨id, hfind, hr⟩ | ⟨id, s, s', hs, _, hset, huri, hclosed, _⟩
  · rw [ha.session] at ht
    rw [ha.find]
    exact h j t ht hopen
  · rw [hr.session] at ht
    split at ht
    · obtain ⟨t', _, rfl⟩ := Option.map_eq_some_iff.1 ht
      cases hopen
    · rename_i hj
      have hfound := h j t ht hopen
      have hne : t.uri ≠ u := by
        intro hu
        rw [hu, hfind, Option.some.injEq] at hfound
        exact hj hfound.symm
      rw [hr.find, if_neg hne]
      exact hfound
  · rw [hset.session] at ht
    rw [hset.find]
    split at ht
    · rename_i hj
      cases ht
      rw [huri, hj]
      exact h id s hs (hclosed ▸ hopen)
    · exact h j t ht hopen

lemma Settled.move {v : String} (h : r.Settled v) (hmove : Move u r tr log r') : r'.Settled v := by
  intro j t hj ht
  rcases hmove.shape with ha | ⟨id, _, hr⟩ | ⟨id, s, s', hs, _, hset, _, _, hle, _⟩
  · rw [ha.find] at hj
    rw [ha.session] at ht
    exact h j t hj ht
  · rw [hr.find] at hj
    rw [hr.session] at ht
    split at hj
    · cases hj
    · split at ht
      · obtain ⟨t', ht', rfl⟩ := Option.map_eq_some_iff.1 ht
        exact h j t' hj ht'
      · exact h j t hj ht
  · rw [hset.find] at hj
    rw [hset.session] at ht
    split at ht
    · rename_i hid
      cases ht
      exact Nat.le_trans (h id s (hid ▸ hj) hs) hle
    · exact h j t hj ht

lemma Tidy.move (h : r.Tidy) (hmove : Move u r tr log r') : r'.Tidy := by
  intro j t ht
  rcases hmove.shape with ha | ⟨id, _, hr⟩ | ⟨id, s, s', hs, _, hset, _, _, _, hlines⟩
  · rw [ha.session] at ht
    exact h j t ht
  · rw [hr.session] at ht
    split at ht
    · obtain ⟨t', ht', rfl⟩ := Option.map_eq_some_iff.1 ht
      exact h j t' ht'
    · exact h j t ht
  · rw [hset.session] at ht
    split at ht
    · cases ht
      rcases hlines with hsame | hnone
      · rw [hsame]
        exact h id s hs
      · exact hnone
    · exact h j t ht

end Registry

end ProverLink
