import ProverLink.Proofs.Courses

/-!
# The number of the last check

The number that a session keeps for its last check is that of the last check that was written to its
process. It is never above the number of the last query, and it never falls. A message that carries
the id of that check does not come before it.
-/

namespace ProverLink

/-! ### What was written -/

/-- The line that an effect writes to the process in a slot. -/
def Effect.written? (id : Nat) : Effect → Option (List Char)
  | .wrote j line => if j = id then some line else none
  | _ => none

/-- The lines that were written to the process in a slot. -/
def writes (id : Nat) (trace : List Effect) : List (List Char) :=
  trace.filterMap (Effect.written? id)

lemma writes_append (id : Nat) (xs ys : List Effect) :
    writes id (xs ++ ys) = writes id xs ++ writes id ys := List.filterMap_append

lemma writes_visible (id : Nat) (trace : List Effect) :
    writes id (visible trace) = writes id trace := by
  rw [writes, writes, visible, List.filterMap_filter]
  congr
  funext e
  cases e <;> rfl

lemma writes_events (id : Nat) (es : List EditorEvent) : writes id (es.map .event) = [] := by
  rw [writes, List.filterMap_map, List.filterMap_eq_nil_iff]
  intro e _
  rfl

/-- Whether a number is that of the last check among some lines, or zero if there is none. -/
def LastCheck (lines : List (List Char)) (n : Int) : Prop :=
  (n = 0 ∧ ∀ line ∈ lines, ∀ k, ¬Query.IsCheck k line) ∨
    ∃ before line behind, lines = before ++ line :: behind ∧ (∃ k, Query.IsCheck k line) ∧
      (∀ k, Query.IsCheck k line → n = k) ∧ ∀ l ∈ behind, ∀ k, ¬Query.IsCheck k l

lemma lastCheck_concat {line : List Char} {k : Nat} (h : Query.IsCheck k line)
    (lines : List (List Char)) : LastCheck (lines ++ [line]) k := by
  refine .inr ⟨lines, line, [], rfl, ⟨k, h⟩, fun m hm => ?_, by simp⟩
  rw [h.unique hm]

lemma LastCheck.concat {lines : List (List Char)} {n : Int} (h : LastCheck lines n)
    {line : List Char} (hline : ∀ k, ¬Query.IsCheck k line) : LastCheck (lines ++ [line]) n := by
  rcases h with ⟨hn, hnone⟩ | ⟨before, check, behind, rfl, hcheck, hn, hbehind⟩
  · refine .inl ⟨hn, fun l hl => ?_⟩
    rcases List.mem_append.1 hl with hl | hl
    · exact hnone l hl
    · rw [List.mem_singleton.1 hl]
      exact hline
  · refine .inr ⟨before, check, behind ++ [line], by simp, hcheck, hn, fun l hl => ?_⟩
    rcases List.mem_append.1 hl with hl | hl
    · exact hbehind l hl
    · rw [List.mem_singleton.1 hl]
      exact hline

namespace Registry

/-! ### The invariant -/

/-- The numbers of all sessions agree with what was written to their processes. -/
structure Numbered (r : Registry) (tr : List Effect) : Prop where
  bounded : ∀ id s, r.session? id = some s → s.checkQuery ≤ s.lastQuery
  last : ∀ id s, r.session? id = some s → LastCheck (writes id tr) s.checkQuery
  known : ∀ id, writes id tr ≠ [] → ∃ s, r.session? id = some s

/-- No session is lost, and no last check gets a smaller number. -/
def Grows (r r' : Registry) : Prop :=
  ∀ id s, r.session? id = some s → ∃ s', r'.session? id = some s' ∧ s.checkQuery ≤ s'.checkQuery

variable {u : String} {r r' r'' : Registry} {tr tr' : List Effect} {log : List Receipt}

lemma Grows.refl (r : Registry) : Grows r r := fun _ s hs => ⟨s, hs, Int.le_refl _⟩

lemma Grows.trans (h : Grows r r') (h' : Grows r' r'') : Grows r r'' := by
  intro id s hs
  obtain ⟨s', hs', hle⟩ := h id s hs
  obtain ⟨s'', hs'', hle'⟩ := h' id s' hs'
  exact ⟨s'', hs'', Int.le_trans hle hle'⟩

/-- Sessions that end or stay, while nothing is written. -/
lemma Numbered.ends (h : Numbered r tr) (gone : Nat → Bool)
    (hsession : ∀ j, r'.session? j
      = if gone j then (r.session? j).map Session.ended else r.session? j)
    (hwrites : ∀ j, writes j tr' = []) : Numbered r' (tr ++ tr') ∧ Grows r r' := by
  have hold : ∀ j s', r'.session? j = some s' → ∃ s, r.session? j = some s ∧
      s'.checkQuery = s.checkQuery ∧ s'.lastQuery = s.lastQuery := by
    intro j s' hs'
    rw [hsession] at hs'
    split at hs'
    · obtain ⟨s, hs, rfl⟩ := Option.map_eq_some_iff.1 hs'
      exact ⟨s, hs, rfl, rfl⟩
    · exact ⟨s', hs', rfl, rfl⟩
  have hgrows : Grows r r' := by
    intro j s hs
    rw [hsession, hs]
    split
    · exact ⟨s.ended, rfl, Int.le_refl _⟩
    · exact ⟨s, rfl, Int.le_refl _⟩
  refine ⟨⟨fun j s' hs' => ?_, fun j s' hs' => ?_, fun j hj => ?_⟩, hgrows⟩
  · obtain ⟨s, hs, hcheck, hlast⟩ := hold j s' hs'
    rw [hcheck, hlast]
    exact h.bounded j s hs
  · obtain ⟨s, hs, hcheck, _⟩ := hold j s' hs'
    rw [writes_append, hwrites, List.append_nil, hcheck]
    exact h.last j s hs
  · rw [writes_append, hwrites, List.append_nil] at hj
    obtain ⟨s, hs⟩ := h.known j hj
    obtain ⟨s', hs', _⟩ := hgrows j s hs
    exact ⟨s', hs'⟩

lemma Numbered.alike (h : Numbered r tr) (hsession : ∀ j, r'.session? j = r.session? j)
    (hwrites : ∀ j, writes j tr' = []) : Numbered r' (tr ++ tr') ∧ Grows r r' :=
  h.ends (fun _ => false) (by simpa using hsession) hwrites

/-- One session goes on. -/
lemma Numbered.sets {id : Nat} {s s' : Session} (h : Numbered r tr) (hset : Sets id s' r r')
    (hs : r.session? id = some s) (hbounded : s'.checkQuery ≤ s'.lastQuery)
    (hlast : LastCheck (writes id (tr ++ tr')) s'.checkQuery)
    (hothers : ∀ j, j ≠ id → writes j tr' = []) (hle : s.checkQuery ≤ s'.checkQuery) :
    Numbered r' (tr ++ tr') ∧ Grows r r' := by
  have hgrows : Grows r r' := by
    intro j t ht
    rw [hset.session]
    split
    · rename_i hj
      rw [hj, hs, Option.some.injEq] at ht
      exact ⟨s', rfl, ht ▸ hle⟩
    · exact ⟨t, ht, Int.le_refl _⟩
  refine ⟨⟨fun j t ht => ?_, fun j t ht => ?_, fun j hj => ?_⟩, hgrows⟩
  · rw [hset.session] at ht
    split at ht
    · cases ht
      exact hbounded
    · exact h.bounded j t ht
  · rw [hset.session] at ht
    split at ht
    · rename_i hj
      cases ht
      exact hj ▸ hlast
    · rename_i hj
      rw [writes_append, hothers j hj, List.append_nil]
      exact h.last j t ht
  · by_cases hid : j = id
    · exact ⟨s', by rw [hset.session, if_pos hid]⟩
    · rw [writes_append, hothers j hid, List.append_nil] at hj
      obtain ⟨t, ht⟩ := h.known j hj
      exact ⟨t, by rw [hset.session, if_neg hid, ht]⟩

/-- One session goes on without a check, while nothing is written. -/
lemma Numbered.sets_silent {id : Nat} {s s' : Session} (h : Numbered r tr) (hset : Sets id s' r r')
    (hs : r.session? id = some s) (hcheck : s'.checkQuery = s.checkQuery)
    (hquery : s.lastQuery ≤ s'.lastQuery) (hwrites : ∀ j, writes j tr' = []) :
    Numbered r' (tr ++ tr') ∧ Grows r r' := by
  have hbounded := h.bounded id s hs
  refine h.sets hset hs (by omega) ?_ (fun j _ => hwrites j) (by omega)
  rw [writes_append, hwrites, List.append_nil, hcheck]
  exact h.last id s hs

lemma Numbered.move [Limits] (h : Numbered r tr) (hmove : Move u r tr' log r') :
    Numbered r' (tr ++ tr') ∧ Grows r r' := by
  cases hmove with
  | idle ha => exact h.alike ha.session fun _ => rfl
  | spawned id command directory ha => exact h.alike ha.session fun _ => rfl
  | reported d message ha _ => exact h.alike ha.session fun _ => rfl
  | @retired _ id _ hr => exact h.ends (fun j => j = id) (by simpa using hr.session) fun _ => rfl
  | @added _ id s line text _ hs _ h0 hline hset =>
    have hbounded := h.bounded id s hs
    refine h.sets hset hs ?_ ?_ (fun j hj => ?_) (Int.le_refl _)
    · simp only
      omega
    · have hwritten : writes id [.wrote id line] = [line] := by simp [writes, Effect.written?]
      rw [writes_append, hwritten]
      exact (h.last id s hs).concat (Query.not_isCheck_vfsAdd hline)
    · simp [writes, Effect.written?, Ne.symm hj]
  | refused _ hs _ h0 hset => exact h.sets_silent hset hs rfl (by simp [h0]) fun _ => rfl
  | @checked _ id s line text _ hs _ hline hset =>
    have hbounded := h.bounded id s hs
    refine h.sets hset hs (Int.le_refl _) ?_ (fun j hj => ?_) ?_
    · have hwritten : writes id [.event (.publish u []), .event (.statusClear u), .wrote id line]
          = [line] := by simp [writes, List.filterMap_cons, Effect.written?]
      rw [writes_append, hwritten]
      exact lastCheck_concat ⟨text, hline⟩ _
    · simp [writes, List.filterMap_cons, Effect.written?, Ne.symm hj]
    · simp only
      omega
  | unchecked _ hs _ hset => exact h.sets_silent hset hs rfl (Nat.le_succ _) fun _ => rfl
  | heard line hs _ _ hset =>
    exact h.sets_silent hset hs rfl (Nat.le_refl _) fun j => writes_events j _
  | buffered b hs _ _ hset => exact h.sets_silent hset hs rfl (Nat.le_refl _) fun _ => rfl

lemma Numbered.moves [Limits] (h : Numbered r tr) (hmoves : Moves u r tr' log r') :
    Numbered r' (tr ++ tr') ∧ Grows r r' := by
  induction hmoves with
  | refl => exact ⟨by simpa using h, .refl r⟩
  | snoc _ hlast ih =>
    obtain ⟨hnumbered, hgrows⟩ := ih.1.move hlast
    exact ⟨by simpa only [List.append_assoc] using hnumbered, ih.2.trans hgrows⟩

lemma Numbered.adopts {id : Nat} (h : Numbered r tr) (hr : Adopts u id r r') :
    Numbered r' tr ∧ Grows r r' := by
  have hgrows : Grows r r' := by
    intro j s hs
    exact ⟨s, by rw [hr.session, if_neg (hr.ne_of_session hs), hs], Int.le_refl _⟩
  refine ⟨⟨fun j s hs => ?_, fun j s hs => ?_, fun j hj => ?_⟩, hgrows⟩
  · rw [hr.session] at hs
    split at hs
    · cases hs
      exact Int.le_refl _
    · exact h.bounded j s hs
  · rw [hr.session] at hs
    split at hs
    · rename_i hj
      cases hs
      -- nothing can have been written to a process without a session
      have hnone : writes j tr = [] := by
        by_contra hne
        obtain ⟨t, ht⟩ := h.known j hne
        exact hr.ne_of_session ht hj
      exact .inl ⟨rfl, by simp [hnone]⟩
    · exact h.last j s hs
  · obtain ⟨s, hs⟩ := h.known j hj
    obtain ⟨s', hs', _⟩ := hgrows j s hs
    exact ⟨s', hs'⟩

end Registry

/-! ### Whole runs -/

namespace Bridge

open Registry

variable {st : Step} {r r' : Registry} {tr tr' : List Effect} {log : List Receipt}

lemma numbered_course [Limits] (h : r.Numbered tr) (hc : Course st r tr' log r') :
    r'.Numbered (tr ++ tr') ∧ Grows r r' := by
  cases hc with
  | world _ hsession => exact h.alike hsession fun _ => rfl
  | moves u hmoves => exact h.moves hmoves
  | opens u id _ hbefore hadopts _ hbehind _ =>
    obtain ⟨h₁, hgrows₁⟩ := h.moves hbefore
    obtain ⟨h₂, hgrows₂⟩ := h₁.adopts hadopts
    obtain ⟨h₃, hgrows₃⟩ := h₂.moves hbehind
    exact ⟨by simpa only [List.append_assoc] using h₃, (hgrows₁.trans hgrows₂).trans hgrows₃⟩
  | closes gone _ _ hsession _ _ _ =>
    exact h.ends (fun j => j ∈ gone) (by simpa using hsession) fun _ => rfl

/-- What holds after some steps still holds after some more. -/
lemma numbered_run [Limits] (steps : List Step) (hserves : r.Serves) (h : r.Numbered tr) :
    (after steps r).Serves ∧ (after steps r).Numbered (tr ++ visible (trace steps r)) ∧
      Grows r (after steps r) := by
  induction steps using List.reverseRecOn with
  | nil => exact ⟨hserves, by simpa [after, trace, outcomes] using h, .refl r⟩
  | append_singleton steps st ih =>
    obtain ⟨hserves', hnumbered, hgrows⟩ := ih
    have hcourse := course_step hserves' st
    obtain ⟨hnumbered', hgrows'⟩ := numbered_course hnumbered hcourse
    rw [after_append, trace_append, visible_append, trace_singleton, after_singleton]
    exact ⟨hcourse.serves hserves', by simpa only [List.append_assoc] using hnumbered',
      hgrows.trans hgrows'⟩

lemma numbered_start (config : Config) : Registry.Numbered { config } [] :=
  ⟨fun _ _ hs => (nomatch hs), fun _ _ hs => (nomatch hs), fun _ h => absurd rfl h⟩

end Bridge

/-! ### Messages about the last check -/

/-- A message that carries the id of a query does not come before that query. -/
lemma Message.precedes_stamped {m : Message} {q : Query} {n : Nat}
    (h : m.queryId = (q.stamp n).id.map QueryId.text) : m.precedes n = false := by
  have hnumber : m.queryNumber = Decimal.read? (Text.ofChars (Decimal.natChars n)) := by
    rw [Message.queryNumber, h]
    rfl
  rw [Message.precedes, hnumber, Decimal.read?_natChars]
  split
  · rfl
  · simp

end ProverLink
