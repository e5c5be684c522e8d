import Mathlib.Data.List.DropRight
import ProverLink.Proofs.Courses

/-!
# What the editor shows

The editor shows the diagnostics of a document that it was told last. Between any two steps of a run
these are the diagnostics of the session that serves the document, and these in turn come from the
lines that the session acted upon since they were cleared.
-/

namespace ProverLink

/-! ### The last list that was published -/

/-- The diagnostics that an event shows for a document. -/
def EditorEvent.shown? (u : String) : EditorEvent → Option (List Diagnostic)
  | .publish v ds => if v = u then some ds else none
  | _ => none

/-- The diagnostics that the editor was told last for a document. -/
def lastShown (u : String) (trace : List Effect) : Option (List Diagnostic) :=
  ((events trace).filterMap (EditorEvent.shown? u)).getLast?

lemma lastShown_append (u : String) (xs ys : List Effect) :
    lastShown u (xs ++ ys) = (lastShown u ys).or (lastShown u xs) := by
  rw [lastShown, events_append, List.filterMap_append, List.getLast?_append]
  rfl

lemma lastShown_visible (u : String) (trace : List Effect) :
    lastShown u (visible trace) = lastShown u trace := by
  rw [lastShown, events_visible]
  rfl

lemma lastShown_append_of_none {u : String} {ys : List Effect} (h : lastShown u ys = none)
    (xs : List Effect) : lastShown u (xs ++ ys) = lastShown u xs := by
  rw [lastShown_append, h, Option.none_or]

lemma lastShown_append_of_some {u : String} {ys : List Effect} {ds : List Diagnostic}
    (h : lastShown u ys = some ds) (xs : List Effect) : lastShown u (xs ++ ys) = some ds := by
  rw [lastShown_append, h, Option.some_or]

/-- The events of a line show what was shown with its diagnostics behind it, if it has any. -/
lemma lastShown_finding (u v : String) (shown : List Diagnostic) (g : Finding) :
    lastShown v ((g.events u shown).map .event)
      = if u = v ∧ g.diagnostics ≠ [] then some (shown ++ g.diagnostics) else none := by
  rcases g with _ | range | (_ | ⟨d, ds⟩)
  · simp [lastShown, events, Finding.events, Finding.diagnostics]
  · simp [lastShown, events, Finding.events, Finding.diagnostics, Effect.event?, EditorEvent.shown?]
  · simp [lastShown, events, Finding.events, Finding.diagnostics]
  · by_cases huv : u = v <;>
      simp [lastShown, events, Finding.events, Finding.diagnostics, Effect.event?,
        EditorEvent.shown?, huv]

/-! ### What was gathered since the last clear -/

/-- The diagnostics of a message after a given check: one for each complaint of a failure, unless
the message belongs to an earlier query or one complaint has no place in the document. -/
def Message.complained (check : Int) (m : Message) : List Diagnostic :=
  match m.body with
  | .failure (.complaints entries) =>
    if m.precedes check then [] else (entries.mapM Diagnostic.ofComplaint).toOption.getD []
  | _ => []

lemma Progress.diagnostics_finding (p : Progress) :
    (p.finding.toOption.getD .nothing).diagnostics = [] := by
  rw [Progress.finding]
  cases p.range with
  | none => rfl
  | some r =>
    dsimp only
    split
    · cases Range.ofCoordinates r.start r.stop <;> rfl
    · rfl

lemma Answer.diagnostics_finding (entries : List Complaint) :
    (((Answer.complaints entries).finding).toOption.getD .nothing).diagnostics
      = (entries.mapM Diagnostic.ofComplaint).toOption.getD [] := by
  rw [Answer.finding]
  cases entries.mapM Diagnostic.ofComplaint <;> rfl

lemma Message.diagnostics_finding (check : Int) (m : Message) :
    ((m.finding check).toOption.getD .nothing).diagnostics = m.complained check := by
  rw [Message.finding, Message.complained]
  cases m.precedes check with
  | true =>
    cases m.body with
    | failure answer => cases answer <;> rfl
    | _ => rfl
  | false =>
    simp only [Bool.false_eq_true, if_false]
    cases m.body with
    | progress p => exact p.diagnostics_finding
    | failure answer =>
      cases answer with
      | complaints entries => exact Answer.diagnostics_finding entries
      | _ => rfl
    | _ => rfl

namespace Receipt

/-- Whether the diagnostics in a slot are cleared. -/
def clears (id : Nat) : Receipt → Bool
  | .cleared j => j = id
  | .line .. => false

/-- The diagnostics that a slot gets. -/
def diagnostics [Limits] (id : Nat) : Receipt → List Diagnostic
  | .cleared _ => []
  | .line j check text =>
    if j = id then ((Message.ofLine? text).map (Message.complained check)).getD [] else []

end Receipt

section Gathering

variable [Limits]

/-- What a slot has gathered since it was cleared last. -/
def gathered (id : Nat) (log : List Receipt) : List Diagnostic :=
  (log.rtakeWhile fun e => !e.clears id).flatMap (Receipt.diagnostics id)

lemma Session.diagnostics_yield (check : Int) (line : List Char) :
    (yield check line).diagnostics
      = ((Message.ofLine? line).map (Message.complained check)).getD [] := by
  rw [yield, finding, Message.ofLine?]
  split
  · rfl
  · cases Message.parse line with
    | error e => cases e <;> rfl
    | ok m => exact m.diagnostics_finding check

lemma gathered_cleared (id j : Nat) (log : List Receipt) :
    gathered j (log ++ [.cleared id]) = if id = j then [] else gathered j log := by
  rw [gathered, List.rtakeWhile_concat]
  by_cases h : id = j
  · simp [h, Receipt.clears]
  · simp [h, Receipt.clears, Receipt.diagnostics, gathered]

lemma gathered_line (id j : Nat) (check : Int) (text : List Char) (log : List Receipt) :
    gathered j (log ++ [.line id check text])
      = gathered j log ++ if id = j then (Session.yield check text).diagnostics else [] := by
  rw [gathered, List.rtakeWhile_concat_pos _ _ _ rfl, List.flatMap_append,
    Session.diagnostics_yield]
  simp [Receipt.diagnostics, gathered]

/-- A slot without lines has gathered nothing. -/
lemma gathered_eq_nil {id : Nat} {log : List Receipt}
    (h : ∀ check text, .line id check text ∉ log) : gathered id log = [] := by
  rw [gathered, List.flatMap_eq_nil_iff]
  intro e he
  have hmem : e ∈ log := (List.rtakeWhile_suffix _ _).subset he
  cases e with
  | cleared j => rfl
  | line j check text =>
    have hj : j ≠ id := by
      rintro rfl
      exact h check text hmem
    simp [Receipt.diagnostics, hj]

end Gathering

/-! ### The invariant -/

namespace Registry

variable [Limits]

/-- What the editor shows and what was gathered agree with the sessions. Between a new session and
its first check the editor may still show what it was told before. -/
structure View (r : Registry) (tr : List Effect) (log : List Receipt) : Prop where
  shown : ∀ u id s, r.find? u = some id → r.session? id = some s → 2 ≤ s.lastQuery →
    lastShown u tr = some s.diagnostics
  ledger : ∀ id s, r.session? id = some s → s.closed = false → s.diagnostics = gathered id log
  known : ∀ id check text, .line id check text ∈ log → ∃ s, r.session? id = some s

variable {u : String} {r r' : Registry} {tr tr' : List Effect} {log log' : List Receipt}

lemma View.alike (h : View r tr log) (hfind : ∀ v, r'.find? v = r.find? v)
    (hsession : ∀ j, r'.session? j = r.session? j)
    (hshown : ∀ v j, r.find? v = some j → lastShown v tr' = none) : View r' (tr ++ tr') log := by
  refine ⟨fun v j s hj hs hle => ?_, fun j s hs hopen => ?_, fun j check text hmem => ?_⟩
  · rw [hfind] at hj
    rw [hsession] at hs
    rw [lastShown_append_of_none (hshown v j hj)]
    exact h.shown v j s hj hs hle
  · rw [hsession] at hs
    exact h.ledger j s hs hopen
  · rw [hsession]
    exact h.known j check text hmem

lemma View.retires {id : Nat} (h : View r tr log) (hr : Retires u id r r') : View r' tr log := by
  refine ⟨fun v j s hj hs hle => ?_, fun j s hs hopen => ?_, fun j check text hmem => ?_⟩
  · rw [hr.find] at hj
    rw [hr.session] at hs
    split at hj
    · cases hj
    · split at hs
      · obtain ⟨t, ht, rfl⟩ := Option.map_eq_some_iff.1 hs
        exact h.shown v j t hj ht hle
      · exact h.shown v j s hj hs hle
  · rw [hr.session] at hs
    split at hs
    · obtain ⟨t, _, rfl⟩ := Option.map_eq_some_iff.1 hs
      cases hopen
    · exact h.ledger j s hs hopen
  · obtain ⟨s, hs⟩ := h.known j check text hmem
    rw [hr.session, hs]
    split
    · exact ⟨s.ended, rfl⟩
    · exact ⟨s, rfl⟩

/-- If one session changes, it must be shown as it is now, and the others as they were. -/
lemma View.sets {id : Nat} {s' : Session} (h : View r tr log) (hset : Sets id s' r r')
    (hshown : ∀ v, r.find? v = some id → 2 ≤ s'.lastQuery →
      lastShown v (tr ++ tr') = some s'.diagnostics)
    (hothers : ∀ v j, r.find? v = some j → j ≠ id → lastShown v tr' = none)
    (hledger : s'.closed = false → s'.diagnostics = gathered id (log ++ log'))
    (hgathered : ∀ j, j ≠ id → gathered j (log ++ log') = gathered j log)
    (hknown : ∀ j check text, .line j check text ∈ log' → j = id) :
    View r' (tr ++ tr') (log ++ log') := by
  refine ⟨fun v j t hj ht hle => ?_, fun j t ht hopen => ?_, fun j check text hmem => ?_⟩
  · rw [hset.find] at hj
    rw [hset.session] at ht
    split at ht
    · rename_i hid
      cases ht
      exact hshown v (hid ▸ hj) hle
    · rename_i hid
      rw [lastShown_append_of_none (hothers v j hj hid)]
      exact h.shown v j t hj ht hle
  · rw [hset.session] at ht
    split at ht
    · rename_i hid
      cases ht
      exact hid ▸ hledger hopen
    · rename_i hid
      rw [hgathered j hid]
      exact h.ledger j t ht hopen
  · rw [hset.session]
    split
    · exact ⟨s', rfl⟩
    · rename_i hid
      rcases List.mem_append.1 hmem with hold | hnew
      · exact h.known j check text hold
      · exact absurd (hknown j check text hnew) hid

lemma View.adopts {id : Nat} (h : View r tr log) (hserves : r.Serves) (hr : Adopts u id r r') :
    View r' tr log := by
  refine ⟨fun v j t hj ht hle => ?_, fun j t ht hopen => ?_, fun j check text hmem => ?_⟩
  · rw [hr.find] at hj
    split at hj
    · cases hj
      rw [hr.session, if_pos rfl, Option.some.injEq] at ht
      simp [← ht] at hle
    · obtain ⟨s, hs, _⟩ := hserves v j hj
      have hid := hr.ne_of_session hs
      rw [hr.session, if_neg hid] at ht
      exact h.shown v j t hj ht hle
  · rw [hr.session] at ht
    split at ht
    · rename_i hid
      subst hid
      cases ht
      -- nothing was gathered in a slot without a session
      rw [gathered_eq_nil]
      intro check text hmem
      obtain ⟨s, hs⟩ := h.known j check text hmem
      exact hr.ne_of_session hs rfl
    · exact h.ledger j t ht hopen
  · obtain ⟨s, hs⟩ := h.known j check text hmem
    exact ⟨s, by rw [hr.session, if_neg (hr.ne_of_session hs), hs]⟩

/-- A session whose diagnostics stay as they are, without a word to the editor. -/
lemma View.sets_silent {id : Nat} {s s' : Session} (h : View r tr log) (hset : Sets id s' r r')
    (hs : r.session? id = some s) (hdiagnostics : s'.diagnostics = s.diagnostics)
    (hclosed : s'.closed = s.closed) (hle : 2 ≤ s'.lastQuery → 2 ≤ s.lastQuery)
    (hsilent : ∀ v, lastShown v tr' = none) : View r' (tr ++ tr') (log ++ []) := by
  refine h.sets hset (fun v hv h2 => ?_) (fun v _ _ _ => hsilent v) (fun hopen => ?_)
    (fun j _ => by rw [List.append_nil]) fun _ _ _ hmem => nomatch hmem
  · rw [lastShown_append_of_none (hsilent v), hdiagnostics]
    exact h.shown v id s hv hs (hle h2)
  · rw [hdiagnostics, List.append_nil]
    exact h.ledger id s hs (hclosed ▸ hopen)

/-- A session whose diagnostics are cleared, while the editor is told so. -/
lemma View.sets_cleared {id : Nat} {s' : Session} (h : View r tr log) (hset : Sets id s' r r')
    (hserves : r.Serves) (hfind : r.find? u = some id) (hdiagnostics : s'.diagnostics = [])
    (hshown : ∀ v, lastShown v tr' = if u = v then some [] else none) :
    View r' (tr ++ tr') (log ++ [.cleared id]) := by
  refine h.sets hset (fun v hv _ => ?_) (fun v j hv hj => ?_) (fun _ => ?_) (fun j hj => ?_) ?_
  · rw [hdiagnostics]
    exact lastShown_append_of_some (by rw [hshown, if_pos (hserves.injective hfind hv)]) tr
  · rw [hshown, if_neg]
    rintro rfl
    rw [hfind, Option.some.injEq] at hv
    exact hj hv.symm
  · rw [hdiagnostics, gathered_cleared, if_pos rfl]
  · rw [gathered_cleared, if_neg (Ne.symm hj)]
  · simp

/-- A session that acts upon a line, while the editor is told of its diagnostics. -/
lemma View.sets_heard {id : Nat} {s s' : Session} {line : List Char} (h : View r tr log)
    (hset : Sets id s' r r') (hs : r.session? id = some s)
    (hfind : r.find? u = some id) (hserves : r.Serves)
    (hs' : s' = { s with diagnostics :=
      s.diagnostics ++ (Session.yield s.checkQuery line).diagnostics }) (hopen : s.closed = false)
    (htrace : tr' = ((Session.yield s.checkQuery line).events u s.diagnostics).map .event) :
    View r' (tr ++ tr') (log ++ [.line id s.checkQuery line]) := by
  have hlast : ∀ v, lastShown v tr' = _ := fun v => by rw [htrace, lastShown_finding]
  refine h.sets hset (fun v hv h2 => ?_) (fun v j hv hj => ?_) (fun _ => ?_) (fun j hj => ?_) ?_
  · have hold := h.shown v id s hv hs (by simpa [hs'] using h2)
    rw [lastShown_append, hlast, hold, hserves.injective hfind hv, hs']
    split
    · rfl
    · rename_i hnone
      have hnil : (Session.yield s.checkQuery line).diagnostics = [] := by simpa using hnone
      simp [hnil]
  · rw [hlast, if_neg]
    rintro ⟨rfl, _⟩
    rw [hfind, Option.some.injEq] at hv
    exact hj hv.symm
  · rw [gathered_line, if_pos rfl, hs', ← h.ledger id s hs hopen]
  · rw [gathered_line, if_neg (Ne.symm hj), List.append_nil]
  · simp +contextual

lemma View.move (h : View r tr log) (hserves : r.Serves) (howned : r.Owned)
    (hmove : Move u r tr' log' r') : View r' (tr ++ tr') (log ++ log') := by
  cases hmove with
  | idle ha =>
    rw [List.append_nil log]
    exact h.alike ha.find ha.session fun _ _ _ => rfl
  | spawned id command directory ha =>
    rw [List.append_nil]
    exact h.alike ha.find ha.session fun _ _ _ => rfl
  | reported d message ha hfree =>
    rw [List.append_nil]
    refine h.alike ha.find ha.session fun v j hj => ?_
    have hv : u ≠ v := by
      rintro rfl
      rw [hfree] at hj
      cases hj
    simp [lastShown, events, Effect.event?, EditorEvent.shown?, hv]
  | retired _ hr => simpa using h.retires hr
  | added _ hfind hs hu h0 _ hset =>
    exact h.sets_silent hset hs rfl rfl (fun h2 => by simp at h2) fun _ => rfl
  | refused hfind hs hu h0 hset =>
    exact h.sets_silent hset hs rfl rfl (fun h2 => by simp at h2) fun _ => rfl
  | checked _ hfind hs hu _ hset =>
    refine h.sets_cleared hset hserves hfind rfl fun v => ?_
    by_cases hv : u = v <;>
      simp [lastShown, events, List.filterMap_cons, Effect.event?, EditorEvent.shown?, hv]
  | unchecked hfind hs hu hset =>
    refine h.sets_cleared hset hserves hfind rfl fun v => ?_
    by_cases hv : u = v <;>
      simp [lastShown, events, List.filterMap_cons, Effect.event?, EditorEvent.shown?, hv]
  | heard line hs hu hopen hset =>
    exact h.sets_heard hset hs (hu ▸ howned _ _ hs hopen) hserves rfl hopen rfl
  | buffered b hs _ _ hset => exact h.sets_silent hset hs rfl rfl id fun _ => rfl

lemma View.moves (h : View r tr log) (hserves : r.Serves) (howned : r.Owned)
    (hmoves : Moves u r tr' log' r') : View r' (tr ++ tr') (log ++ log') := by
  induction hmoves with
  | refl => simpa using h
  | snoc hbefore hlast ih =>
    have hview :=
      ih.move (hbefore.keeps Serves.move hserves) (hbefore.keeps Owned.move howned) hlast
    simpa only [List.append_assoc] using hview

/-- Clearing a slot that has gathered nothing makes no difference. -/
lemma View.of_cleared {id : Nat} (h : View r tr (log ++ [.cleared id]))
    (hnone : ∀ check text, .line id check text ∉ log) : View r tr log := by
  refine ⟨h.shown, fun j s hs hopen => ?_, fun j check text hmem => ?_⟩
  · rw [h.ledger j s hs hopen, gathered_cleared]
    split
    · rename_i hid
      rw [← hid, gathered_eq_nil hnone]
    · rfl
  · exact h.known j check text (List.mem_append_left _ hmem)

lemma View.course {st : Bridge.Step} (h : View r tr log) (hserves : r.Serves) (howned : r.Owned)
    (hc : Bridge.Course st r tr' log' r') : View r' (tr ++ tr') (log ++ log') := by
  cases hc with
  | world hfind hsession =>
    rw [List.append_nil log]
    exact h.alike hfind hsession fun _ _ _ => rfl
  | moves u hmoves => exact h.moves hserves howned hmoves
  | opens u id _ hbefore hadopts hlog hbehind _ =>
    have hserves₁ := hbefore.keeps Serves.move hserves
    have howned₁ := hbefore.keeps Owned.move howned
    have hview₁ := h.moves hserves howned hbefore
    have hview := (hview₁.adopts hserves₁ hadopts).moves (hserves₁.adopts hadopts)
      (howned₁.adopts hadopts) hbehind
    rw [List.append_nil] at hview₁ hview ⊢
    rw [List.append_assoc] at hview
    rcases hlog with rfl | rfl
    · simpa using hview
    · refine hview.of_cleared fun check text hmem => ?_
      obtain ⟨s, hs⟩ := hview₁.known id check text hmem
      exact hadopts.ne_of_session hs rfl
  | closes gone _ hfind hsession _ _ _ =>
    refine ⟨fun v j s hj => ?_, fun j s hs hopen => ?_, fun j check text hmem => ?_⟩
    · rw [hfind] at hj
      cases hj
    · rw [hsession] at hs
      rw [List.append_nil]
      split at hs
      · obtain ⟨t, _, rfl⟩ := Option.map_eq_some_iff.1 hs
        cases hopen
      · exact h.ledger j s hs hopen
    · rw [List.append_nil] at hmem
      obtain ⟨s, hs⟩ := h.known j check text hmem
      rw [hsession, hs]
      split
      · exact ⟨s.ended, rfl⟩
      · exact ⟨s, rfl⟩

end Registry

/-! ### Whole runs -/

namespace Bridge

/-- What some steps mean for the diagnostics. -/
def receipts [Limits] : List Step → Registry → List Receipt
  | [], _ => []
  | st :: rest, r => st.receipts r ++ receipts rest (st.act.run r).state

lemma receipts_concat [Limits] (steps : List Step) (st : Step) (r : Registry) :
    receipts (steps ++ [st]) r = receipts steps r ++ st.receipts (after steps r) := by
  induction steps generalizing r with
  | nil => simp [receipts, after]
  | cons first rest ih => simp [receipts, after, ih]

lemma view_run [Limits] (config : Config) {steps : List Step} (h : ∀ st ∈ steps, st.IsTame) :
    Standing (after steps { config }) ∧
      (after steps { config }).View (visible (trace steps { config }))
        (receipts steps { config }) := by
  induction steps using List.reverseRecOn with
  | nil =>
    refine ⟨standing_start config, ⟨fun u id s hfind => ?_, fun id s hs => ?_, by simp [receipts]⟩⟩
    · cases hfind
    · cases hs
  | append_singleton steps st ih =>
    obtain ⟨hstanding, hview⟩ := ih fun st' hst' => h st' (List.mem_append_left _ hst')
    have hcourse := course_step hstanding.serves st
    rw [after_append, trace_append, receipts_concat, visible_append, trace_singleton]
    exact ⟨hstanding.step (h st (by simp)), hview.course hstanding.serves hstanding.owned hcourse⟩

/-- Between any two steps of a run, what the editor was told last for a document that has a session
is what the session holds, and that is what the session has gathered since it was cleared. Left out
are pipes on which a write, or whose closing, has a fault that nobody handles. -/
theorem shown_diagnostics_are_gathered [Limits] (config : Config) (steps : List Step)
    (htame : ∀ st ∈ steps, st.IsTame) (u : String) (id : Nat)
    (hfind : (after steps { config }).find? u = some id) :
    ∃ s, (after steps { config }).session? id = some s ∧ s.uri = u ∧
      lastShown u (trace steps { config }) = some s.diagnostics ∧
      s.diagnostics = gathered id (receipts steps { config }) := by
  obtain ⟨hstanding, hview⟩ := view_run config htame
  obtain ⟨s, hs, hu, hopen⟩ := hstanding.serves u id hfind
  have hshown := hview.shown u id s hfind hs (hstanding.settled u id s hfind hs)
  rw [lastShown_visible] at hshown
  exact ⟨s, hs, hu, hshown, hview.ledger id s hs hopen⟩

/-- The answer to a query with one complaint that has no place. -/
def complaintLine (query message : String) : List Char :=
  ("\x7b\"kind\":\"response\",\"status\":\"failure\",\"query-id\":\"" ++ query ++
    "\",\"response\":[\x7b\"message\":\"" ++ message ++ "\"\x7d]\x7d\n").toList

/-- A document loses its session to a broken pipe and is opened again; output of both sessions
arrives behind that, and some of it belongs to a superseded check. -/
def lostAndReopened : List Step :=
  [.openDocument "a" "x" (some {}),
   .output 0 (complaintLine "2" "e"),
   .world fun _ c => { c with stdin := { c.stdin with writeError := some (.value "closed") } },
   .changeDocument "a" "y",
   .openDocument "a" "z" (some {}),
   .output 0 (complaintLine "2" "late"),
   .changeDocument "a" "w",
   .output 1 (complaintLine "2" "stale"),
   .output 1 (complaintLine "3" "f")]

theorem shown_diagnostics_of_lostAndReopened :
    (after lostAndReopened { config := {} }).find? "a" = some 1 ∧
      (gathered 1 (receipts lostAndReopened { config := {} })).length = 1 ∧
      ∃ s, (after lostAndReopened { config := {} }).session? 1 = some s ∧ s.uri = "a" ∧
        lastShown "a" (trace lostAndReopened { config := {} }) = some s.diagnostics ∧
        s.diagnostics = gathered 1 (receipts lostAndReopened { config := {} }) := by
  have htame : ∀ st ∈ lostAndReopened, st.IsTame := by
    intro st hst
    simp only [lostAndReopened, List.mem_cons, List.not_mem_nil, or_false] at hst
    rcases hst with rfl | rfl | rfl | rfl | rfl | rfl | rfl | rfl | rfl
    case inr.inr.inl =>
      intro _ c hc
      exact ⟨⟨fun text hmem => hc.write text (by simpa using Or.inr hmem), hc.close⟩, rfl⟩
    all_goals trivial
  have hfind : (after lostAndReopened { config := {} }).find? "a" = some 1 := by decide +kernel
  refine ⟨hfind, ?_, shown_diagnostics_are_gathered {} lostAndReopened htame "a" 1 hfind⟩
  decide +kernel

end Bridge

end ProverLink
