import ProverLink.Proofs.Checks
import ProverLink.Proofs.Encoding
import ProverLink.Proofs.Pipes
import ProverLink.Proofs.Rereading

/-!
# What checkers read

The bytes that a checker takes are what the editor asked of it: first the text of the document that
was opened, then one query for each check, numbered from one, each a line of JSON. Pipes may fail at
any write, and may have any fault when they are closed; only a write that fails in a way which
nobody handles is left out.
-/

namespace ProverLink

/-! ### Requests -/

/-- What is asked of a checker. -/
inductive Request where
  /-- The file it works on has this text. -/
  | add (text : String)
  /-- This text is to be checked. -/
  | check (text : String)
deriving DecidableEq

namespace Request

/-- A request under a number, as it is to be read. -/
def wire (k : Nat) : Request → Json
  | .add text => .obj
    [(Text.ofString "query", .str (Text.ofString "vfs-add")),
      (Text.ofString "args", .obj
        [(Text.ofString "filename", .null), (Text.ofString "contents", .str (Text.ofString text))]),
      (Text.ofString "query-id", .str (Text.ofString (toString k)))]
  | .check text => .obj
    [(Text.ofString "query", .str (Text.ofString "full-buffer")),
      (Text.ofString "args", .obj
        [(Text.ofString "kind", .str (Text.ofString "full")),
          (Text.ofString "code", .str (Text.ofString text)),
          (Text.ofString "line", .int 0), (Text.ofString "column", .int 0)]),
      (Text.ofString "query-id", .str (Text.ofString (toString k)))]

/-- The query that is sent for a request. -/
def query : Request → Query
  | .add text => .vfsAdd text
  | .check text => .fullBuffer text

lemma toJson_stamp (q : Request) (k : Nat) : (q.query.stamp k).toJson = q.wire k := by
  have hnumber : Text.ofString (toString k) = Text.ofChars (Decimal.natChars k) := by
    rw [Text.ofString, Nat.toString_eq_repr, Nat.repr, String.toList_ofList]
    rfl
  cases q with
  | add text => rw [wire, hnumber]; rfl
  | check text => rw [wire, hnumber]; rfl

lemma toLine_stamp (q : Request) (k : Nat) :
    (q.query.stamp k).toLine = .ok ((q.wire k).chars ++ ['\n']) := by
  rw [← toJson_stamp]
  cases q with
  | add text => exact Query.toLine_vfsAdd text k
  | check text => exact Query.toLine_fullBuffer text k

lemma hasSurrogate_ofString (s : String) : (Text.ofString s).hasSurrogate = false :=
  Text.hasSurrogate_ofChars _

lemma isPlain_wire (q : Request) (k : Nat) : (q.wire k).IsPlain := by
  cases q with
  | add text =>
    simp only [wire, Json.IsPlain, Json.HavePlain, hasSurrogate_ofString, List.map_cons,
      List.map_nil, true_and, and_true]
    decide
  | check text =>
    simp only [wire, Json.IsPlain, Json.HavePlain, hasSurrogate_ofString, List.map_cons,
      List.map_nil, true_and, and_true]
    decide

lemma depth_wire (q : Request) (k : Nat) : (q.wire k).depth ≤ Json.maxDepth + 2 := by
  cases q with
  | add text => simp [wire, Json.depth, Json.depthOfFields, Json.maxDepth]
  | check text => simp [wire, Json.depth, Json.depthOfFields, Json.maxDepth]

end Request

/-- The lines of requests, numbered from one. -/
def transcript (sent : List Request) : List (List Char) :=
  sent.zipIdx.map fun q => (q.1.wire (q.2 + 1)).chars

lemma transcript_append (xs ys : List Request) :
    transcript (xs ++ ys)
      = transcript xs ++ (ys.zipIdx xs.length).map fun q => (q.1.wire (q.2 + 1)).chars := by
  rw [transcript, List.zipIdx_append, List.map_append, Nat.zero_add]
  rfl

/-- A transcript is read as the requests again. -/
lemma map_read_transcript [Limits] (sent : List Request) :
    (transcript sent).map Json.read = sent.zipIdx.map fun q => .ok (q.1.wire (q.2 + 1)) := by
  rw [transcript, List.map_map]
  exact List.map_congr_left fun q _ => Json.read_chars (q.1.isPlain_wire _) (q.1.depth_wire _)

lemma newline_notMem_transcript {sent : List Request} {line : List Char}
    (h : line ∈ transcript sent) : '\n' ∉ line := by
  obtain ⟨q, -, rfl⟩ := List.mem_map.1 h
  exact Json.newline_notMem_chars _ (q.1.isPlain_wire _)

/-- The bytes that the process in a slot has taken. -/
def stdinBytes (id : Nat) (trace : List Effect) : List UInt8 :=
  (writes id trace).flatMap Utf8.encode

lemma stdinBytes_of_writes {id : Nat} {tr : List Effect} {lines : List (List Char)}
    (h : writes id tr = lines.map (· ++ ['\n'])) :
    stdinBytes id tr = Utf8.encode (lines.flatMap (· ++ ['\n'])) := by
  rw [stdinBytes, h, Utf8.encode, List.flatMap_assoc, List.flatMap_map]
  rfl

/-- A byte stream of whole lines is empty or ends with a line break. -/
lemma getLast?_encode_lines (lines : List (List Char)) :
    Utf8.encode (lines.flatMap (· ++ ['\n'])) = [] ∨
      (Utf8.encode (lines.flatMap (· ++ ['\n']))).getLast? = some 10 := by
  rcases lines.eq_nil_or_concat with rfl | ⟨front, line, rfl⟩
  · exact .inl rfl
  · right
    rw [List.concat_eq_append, List.flatMap_append, Utf8.encode_append, List.flatMap_singleton,
      Utf8.encode_append]
    simp [Utf8.encode]
    rfl

/-! ### What each step asks -/

lemma writes_wrote (j id : Nat) (line : List Char) :
    writes j [.wrote id line] = if j = id then [line] else [] := by
  by_cases hj : j = id
  · simp [writes, Effect.written?, hj]
  · simp [writes, Effect.written?, hj, Ne.symm hj]

lemma writes_spawned (j id : Nat) (command : List String) (directory : String) (tr : List Effect) :
    writes j (.spawned id command directory :: tr) = writes j tr := rfl

/-- What a new process takes in of a text. -/
def Child.intake (c : Child) (text : String) : List Request :=
  if c.takes then .add text :: if c.afterWrite.takes then [.check text] else [] else []

namespace Bridge

open Registry

/-- What a step asks of the checker in a slot, as far as its pipe takes it. A session that is new is
given the text of its document and asked to check it. -/
def Step.requests [Limits] (id : Nat) (r : Registry) : Step → List Request
  | .openDocument u text path =>
    if (r.session? id).isNone
        && (((Step.openDocument u text path).act.run r).state.session? id).isSome then
      r.plan.child.intake text
    else []
  | .changeDocument u text =>
    if r.find? u = some id && (r.child? id).any Child.takes then [.check text] else []
  | _ => []

/-- What is asked of the checker in a slot during some steps. -/
def requests [Limits] (id : Nat) : List Step → Registry → List Request
  | [], _ => []
  | st :: rest, r => st.requests id r ++ requests id rest (st.act.run r).state

lemma requests_append [Limits] (id : Nat) (xs ys : List Step) (r : Registry) :
    requests id (xs ++ ys) r = requests id xs r ++ requests id ys (after xs r) := by
  induction xs generalizing r with
  | nil => rfl
  | cons st rest ih => rw [List.cons_append, requests, ih, requests, List.append_assoc, after]

end Bridge

namespace Registry

/-! ### The invariant -/

lemma Refusing.not_takes {r : Registry} {u : String} {id : Nat} {front : List Effect} {s : Session}
    {c : Child} {o : Outcome Registry (Option Nat)} (h : Refusing u id front s c r o) :
    ¬c.takes = true := by
  rw [c.takes_iff u]
  intro hwrite
  cases h with
  | lost _ hf _ _ _ _ => rw [hwrite] at hf; cases hf
  | cut _ _ hf _ _ _ _ => rw [hwrite] at hf; cases hf
  | wild _ hf _ _ _ _ => rw [hwrite] at hf; cases hf

/-- What was written is what was asked, and each session that serves a document has counted it. -/
structure Transcribed (r : Registry) (tr : List Effect) (sent : Nat → List Request) : Prop where
  written : ∀ id, writes id tr = (transcript (sent id)).map (· ++ ['\n'])
  counted : ∀ u id s, r.find? u = some id → r.session? id = some s →
    s.lastQuery = (sent id).length ∧ sent id ≠ []
  known : ∀ id, r.session? id = none → sent id = []

namespace Transcribed

variable {r r' : Registry} {tr tr' : List Effect} {sent sent' : Nat → List Request}

/-- Nothing is asked, and no session that serves a document has changed its count. -/
lemma silent (h : Transcribed r tr sent) (hsent : ∀ j, sent' j = sent j)
    (hwrites : ∀ j, writes j tr' = [])
    (hfind : ∀ u j t', r'.find? u = some j → r'.session? j = some t' →
      ∃ t, r.find? u = some j ∧ r.session? j = some t ∧ t'.lastQuery = t.lastQuery)
    (hknown : ∀ j, r'.session? j = none → r.session? j = none) :
    Transcribed r' (tr ++ tr') sent' := by
  obtain rfl : sent' = sent := funext hsent
  refine ⟨fun j => ?_, fun u j t' hj ht' => ?_, fun j hj => h.known j (hknown j hj)⟩
  · rw [writes_append, hwrites, List.append_nil]
    exact h.written j
  · obtain ⟨t, hu, ht, hn⟩ := hfind u j t' hj ht'
    rw [hn]
    exact h.counted u j t hu ht

lemma alike (h : Transcribed r tr sent) (hsent : ∀ j, sent' j = sent j)
    (hwrites : ∀ j, writes j tr' = []) (hfind : ∀ v, r'.find? v = r.find? v)
    (hsession : ∀ j, r'.session? j = r.session? j) : Transcribed r' (tr ++ tr') sent' := by
  refine h.silent hsent hwrites (fun u j t hj ht => ?_) fun j hj => ?_
  · rw [hfind] at hj
    rw [hsession] at ht
    exact ⟨t, hj, ht, rfl⟩
  · rwa [hsession] at hj

/-- Only what was written matters of a trace. -/
lemma of_writes (h : Transcribed r tr sent) (hwrites : ∀ j, writes j tr' = writes j tr) :
    Transcribed r tr' sent := ⟨fun j => (hwrites j).trans (h.written j), h.counted, h.known⟩

variable {u : String} {id : Nat} {s s' : Session} {c : Child}

/-- The document loses its session. -/
lemma revises_none (h : Transcribed r tr sent) (hserves : r.Serves) (hfind : r.find? u = some id)
    (hr : Revises u id none s' c r r') (hsent : ∀ j, sent' j = sent j)
    (hwrites : ∀ j, writes j tr' = []) :
    Transcribed r' (tr ++ tr') sent' := by
  refine h.silent hsent hwrites (fun v j t hj ht => ?_) fun j hj => ?_
  · rw [hr.find] at hj
    split at hj
    · cases hj
    · rename_i hne
      have hid : j ≠ id := fun hid => hne (hserves.injective hj (hid ▸ hfind))
      rw [hr.session_eq, if_neg hid] at ht
      exact ⟨t, hj, ht, rfl⟩
  · rw [hr.session_eq] at hj
    split at hj
    · cases hj
    · exact hj

/-- A session goes on without a query. -/
lemma revises_same {found : Option Nat} (h : Transcribed r tr sent) (hs : r.session? id = some s)
    (hfound : found = r.find? u) (hr : Revises u id found s' c r r')
    (hn : s'.lastQuery = s.lastQuery) (hsent : ∀ j, sent' j = sent j)
    (hwrites : ∀ j, writes j tr' = []) :
    Transcribed r' (tr ++ tr') sent' := by
  refine h.silent hsent hwrites (fun v j t hj ht => ?_) fun j hj => ?_
  · have hj' : r.find? v = some j := by
      rw [hr.find] at hj
      split at hj
      · rename_i hv
        rw [hv, ← hfound, hj]
      · exact hj
    rw [hr.session_eq] at ht
    split at ht
    · rename_i hid
      cases ht
      exact ⟨s, hj', hid ▸ hs, hn⟩
    · exact ⟨t, hj', ht, rfl⟩
  · rw [hr.session_eq] at hj
    split at hj
    · cases hj
    · exact hj

/-- A query is taken. -/
lemma taken (h : Transcribed r tr sent) (hfind : r.find? u = some id)
    (hs : r.session? id = some s) (hr : Revises u id (some id) s' c r r')
    (hn : s'.lastQuery = s.lastQuery + 1) (q : Request)
    (hsent : ∀ j, sent' j = sent j ++ if j = id then [q] else [])
    (hwrites : ∀ j, writes j tr'
      = if j = id then [(q.wire (s.lastQuery + 1)).chars ++ ['\n']] else []) :
    Transcribed r' (tr ++ tr') sent' := by
  have hcount := (h.counted u id s hfind hs).1
  refine ⟨fun j => ?_, fun v j t hj ht => ?_, fun j hj => ?_⟩
  · rw [writes_append, h.written, hwrites, hsent]
    split
    · rename_i hj
      rw [hj, transcript_append, ← hcount]
      simp
    · simp
  · rw [hr.session_eq] at ht
    rw [hsent]
    split at ht
    · rename_i hid
      cases ht
      rw [if_pos hid, hid, hn, hcount]
      simp
    · rename_i hid
      rw [hr.find] at hj
      split at hj
      · exact absurd (Option.some.inj hj).symm hid
      · rw [if_neg hid, List.append_nil]
        exact h.counted v j t hj ht
  · rw [hr.session_eq] at hj
    split at hj
    · cases hj
    · rename_i hid
      rw [hsent, if_neg hid, List.append_nil]
      exact h.known j hj

/-- A query is not taken. -/
lemma refusing {front : List Effect} {o : Outcome Registry (Option Nat)} (h : Transcribed r tr sent)
    (hserves : r.Serves) (hfind : r.find? u = some id) (hc : c.IsFair)
    (ho : Refusing u id front s' c r o) (hfront : ∀ j, writes j front = [])
    (hsent : ∀ j, sent' j = sent j) :
    Transcribed o.state (tr ++ visible o.trace) sent' := by
  cases ho with
  | lost e _ _ hr _ htrace =>
    refine h.revises_none hserves hfind hr hsent fun j => ?_
    rw [htrace, writes_append, hfront]
    rfl
  | cut e f _ _ hr _ htrace =>
    refine h.revises_none hserves hfind hr hsent fun j => ?_
    rw [htrace, hfront]
  | wild f hwrite hf _ _ _ =>
    obtain ⟨e, rfl⟩ := hc.transport hwrite
    exact absurd rfl (hf e)

/-- A query is taken or not. -/
lemma sending {front : List Effect} {t : Session} {line : List Char}
    {o : Outcome Registry (Option Nat)} (h : Transcribed r tr sent) (hserves : r.Serves)
    (hfind : r.find? u = some id)
    (hs : r.session? id = some s) (hc : c.IsFair) (ho : Sending u id front t s' c line r o)
    (hn : s'.lastQuery = s.lastQuery + 1) (hfront : ∀ j, writes j front = []) (q : Request)
    (hline : line = (q.wire (s.lastQuery + 1)).chars ++ ['\n'])
    (hsent : ∀ j, sent' j = sent j ++ if j = id ∧ c.takes = true then [q] else []) :
    Transcribed o.state (tr ++ visible o.trace) sent' := by
  cases ho with
  | taken hwrite hr _ htrace =>
    have htakes := (c.takes_iff u).2 hwrite
    refine h.taken hfind hs hr hn q (fun j => ?_) fun j => ?_
    · rw [hsent]
      simp [htakes]
    · rw [htrace, writes_append, hfront, hline, writes_wrote]
      rfl
  | refused ho =>
    have htakes := ho.not_takes
    refine h.refusing hserves hfind hc ho hfront fun j => ?_
    rw [hsent]
    simp [htakes]

lemma vacates (h : Transcribed r tr sent) (hserves : r.Serves) (hv : Vacates u r r')
    (hsent : ∀ j, sent' j = sent j) (hwrites : ∀ j, writes j tr' = []) :
    Transcribed r' (tr ++ tr') sent' := by
  cases hv with
  | free _ => exact h.alike hsent hwrites (fun _ => rfl) fun _ => rfl
  | left id s c hfind hs hc _ =>
    exact h.revises_none hserves hfind (revises_release hs hc u) hsent hwrites

lemma vacated (h : Transcribed r tr sent) (hserves : r.Serves) (hv : Vacates u r r') :
    Transcribed r' tr sent := by
  have hnothing := h.vacates hserves hv (fun _ => rfl) fun j => (rfl : writes j [] = [])
  rwa [List.append_nil] at hnothing

/-- A new session takes its first query. -/
lemma seats_taken {r₂ : Registry} (h : Transcribed r tr sent) (hseats : Seats u r r₂)
    (hr : Revises u r.slots.length (some r.slots.length) s' c r₂ r') (hn : s'.lastQuery = 1)
    (q : Request)
    (hsent : ∀ j, sent' j = sent j ++ if j = r.slots.length then [q] else [])
    (hwrites : ∀ j, writes j tr'
      = if j = r.slots.length then [(q.wire 1).chars ++ ['\n']] else []) :
    Transcribed r' (tr ++ tr') sent' := by
  have hempty := h.known _ (session?_length r)
  have hsession : ∀ j, r'.session? j = if j = r.slots.length then some s' else r.session? j := by
    intro j
    rw [hr.session_eq, hseats.session_eq]
    split <;> rfl
  refine ⟨fun j => ?_, fun v j t hj ht => ?_, fun j hj => ?_⟩
  · rw [writes_append, h.written, hwrites, hsent]
    split
    · rename_i hj
      rw [hj, hempty]
      rfl
    · simp
  · rw [hsession] at ht
    rw [hsent]
    split at ht
    · rename_i hid
      cases ht
      rw [if_pos hid, hid, hempty, hn]
      simp
    · rename_i hid
      rw [hr.find, hseats.find] at hj
      split at hj
      · exact absurd (Option.some.inj hj).symm hid
      · rw [if_neg hid, List.append_nil]
        exact h.counted v j t hj ht
  · rw [hsession] at hj
    split at hj
    · cases hj
    · rename_i hid
      rw [hsent, if_neg hid, List.append_nil]
      exact h.known j hj

/-- A new session does not take its first query. -/
lemma seats_refusing {r₂ : Registry} {o : Outcome Registry (Option Nat)} (h : Transcribed r tr sent)
    (hserves : r.Serves) (hseats : Seats u r r₂) (hc : c.IsFair)
    (ho : Refusing u r.slots.length [] s' c r₂ o) (hsent : ∀ j, sent' j = sent j) :
    Transcribed o.state (tr ++ visible o.trace) sent' := by
  have hgone : ∀ {t : Session} {d : Child}, Revises u r.slots.length none t d r₂ o.state →
      (∀ j, writes j (visible o.trace) = []) →
        Transcribed o.state (tr ++ visible o.trace) sent' := by
    intro t d hr hwrites
    refine h.silent hsent hwrites (fun v j t' hj ht' => ?_) fun j hj => ?_
    · rw [hr.find, hseats.find] at hj
      split at hj
      · cases hj
      · obtain ⟨s₀, hs₀, -, -⟩ := hserves v j hj
        have hid : j ≠ r.slots.length := by
          rintro rfl
          rw [session?_length] at hs₀
          cases hs₀
        rw [hr.session_eq, if_neg hid, hseats.session_eq, if_neg hid] at ht'
        exact ⟨t', hj, ht', rfl⟩
    · rw [hr.session_eq] at hj
      split at hj
      · cases hj
      · rename_i hid
        rwa [hseats.session_eq, if_neg hid] at hj
  cases ho with
  | lost e _ _ hr _ htrace => exact hgone hr fun j => by rw [htrace]; rfl
  | cut e f _ _ hr _ htrace => exact hgone hr fun j => by rw [htrace]; rfl
  | wild f hwrite hf _ _ _ =>
    obtain ⟨e, rfl⟩ := hc.transport hwrite
    exact absurd rfl (hf e)

end Transcribed

/-! ### Opening a document -/

section Opening

variable {r : Registry} {u : String}

/-- A session is new in a slot if the document got one there. -/
lemma isNew_of_seats {r₁ r₂ r₃ : Registry} {t : Session} (hv : Vacates u r r₁)
    (hseats : Seats u r₁ r₂)
    (h : ∀ j, r₃.session? j = if j = r.slots.length then some t else r₂.session? j) (j : Nat) :
    ((r.session? j).isNone && (r₃.session? j).isSome) = decide (j = r.slots.length) := by
  by_cases hj : j = r.slots.length
  · simp [hj, h, session?_length]
  · have hr₂ := hseats.session_eq j
    rw [hv.length, if_neg hj] at hr₂
    simp only [h, hj, if_false, hr₂, decide_false, Bool.and_eq_false_iff]
    cases hs : r.session? j with
    | none =>
      right
      rw [(hv.session_eq_none_iff j).2 hs]
      rfl
    | some s => exact .inl rfl

/-- No session is new. -/
lemma isNew_of_none {r' : Registry} (h : ∀ j, r'.session? j = none ↔ r.session? j = none)
    (j : Nat) : ((r.session? j).isNone && (r'.session? j).isSome) = false := by
  cases hs : r.session? j with
  | none =>
    rw [(h j).2 hs]
    rfl
  | some s => rfl

end Opening

namespace Transcribed

variable {r r₁ r₂ : Registry} {tr : List Effect} {sent sent' : Nat → List Request}
  {u text : String}

/-- The new checker does not take the text. -/
lemma opening_refused {o : Outcome Registry (Option Nat)} (h : Transcribed r tr sent)
    (hserves : r.Serves) (hfair : r.Fair) (hv : Vacates u r r₁) (hseats : Seats u r₁ r₂)
    (hattached : r.plan.child.stdin.attached = true)
    (ho : Refusing u r.slots.length [] { uri := u, lastQuery := 1 } r.plan.child r₂ o) :
    Transcribed o.state (tr ++ visible o.trace) sent := by
  rw [← hv.length] at ho
  exact (h.vacated hserves hv).seats_refusing (hserves.vacates hv) hseats (hfair.child hattached)
    ho fun _ => rfl

/-- The new checker takes the text, and then perhaps the check. -/
lemma opening_checked {r₃ : Registry} {o : Outcome Registry (Option Nat)} {line line' : List Char}
    (h : Transcribed r tr sent) (hserves : r.Serves) (hfair : r.Fair) (hv : Vacates u r r₁)
    (hseats : Seats u r₁ r₂) (hline : ((Query.vfsAdd text).stamp 1).toLine = .ok line)
    (hwrite : r.plan.child.writeFault? u = none)
    (hr : Revises u r.slots.length (some r.slots.length) { uri := u, lastQuery := 1 }
      r.plan.child.tried r₂ r₃)
    (hline' : ((Query.fullBuffer text).stamp 2).toLine = .ok line')
    (ho : Sending u r.slots.length (clearing u) { uri := u, lastQuery := 2 }
      { uri := u, lastQuery := 2, checkQuery := 2 } r.plan.child.tried line' r₃ o)
    (hsent : ∀ j, sent' j = sent j ++ if j = r.slots.length then r.plan.child.intake text else []) :
    Transcribed o.state (tr ++ [.wrote r.slots.length line] ++ visible o.trace) sent' := by
  have hadd : line = ((Request.add text).wire 1).chars ++ ['\n'] :=
    Except.ok.inj (hline.symm.trans (Request.toLine_stamp (.add text) 1))
  have hcheck : line' = ((Request.check text).wire 2).chars ++ ['\n'] :=
    Except.ok.inj (hline'.symm.trans (Request.toLine_stamp (.check text) 2))
  have hadded : Transcribed r₃ (tr ++ [.wrote r.slots.length line])
      fun j => sent j ++ if j = r.slots.length then [.add text] else [] :=
    (h.vacated hserves hv).seats_taken hseats (hv.length ▸ hr) rfl (.add text)
      (fun j => by rw [hv.length]) fun j => by rw [hadd, hv.length]; exact writes_wrote ..
  have hserved := ((hserves.vacates hv).seats hseats).revises_some (hseats.views hv).1 hr rfl rfl
  have hattached := Child.attached_of_writeFault? hwrite
  refine hadded.sending hserved hr.find_self hr.session (hfair.child hattached).tried ho rfl
    (fun _ => rfl) (.check text) hcheck fun j => ?_
  rw [hsent, Child.intake, if_pos ((r.plan.child.takes_iff u).2 hwrite), Child.tried,
    if_pos hattached]
  by_cases hj : j = r.slots.length
  · simp [hj]
  · simp [hj]

lemma opening {o : Outcome Registry (Option Nat)} (h : Transcribed r tr sent)
    (hserves : r.Serves) (hfair : r.Fair) (ho : Opening u text r o)
    (hsent : ∀ j, sent' j = sent j ++ if (r.session? j).isNone && (o.state.session? j).isSome then
      r.plan.child.intake text else []) : Transcribed o.state (tr ++ visible o.trace) sent' := by
  have hsame : (∀ j, o.state.session? j = none ↔ r.session? j = none) →
      ∀ j, sent' j = sent j := by
    intro hnone j
    rw [hsent, isNew_of_none hnone]
    simp
  cases ho with
  | stuck id s c f hfind hs _ _ hr _ htrace =>
    refine h.revises_none hserves hfind hr (hsame fun j => ?_) fun j => by rw [htrace]; rfl
    rw [hr.session_eq]
    split
    · rename_i hj
      simp [hj, hs]
    · rfl
  | unstarted message hv _ htrace =>
    exact h.vacates hserves hv (hsame hv.session_eq_none_iff) fun j => by rw [htrace]; rfl
  | failed f hv _ htrace =>
    exact h.vacates hserves hv (hsame hv.session_eq_none_iff) fun j => by rw [htrace]; rfl
  | pipeless f command directory hv hstate _ htrace =>
    refine (h.vacated hserves hv).alike (hsame fun j => ?_) (fun j => ?_) (fun v => ?_) fun j => ?_
    · rw [hstate, session?_extend, hv.session_eq_none_iff]
    · rw [htrace]
      rfl
    · rw [hstate]
      rfl
    · rw [hstate, session?_extend]
  | @refused _ _ o₁ command directory hv hseats ho hattached hstate _ htrace =>
    obtain rfl : sent' = sent := by
      funext j
      rw [hsent, Child.intake, if_neg ho.not_takes]
      simp
    rw [hstate, htrace]
    refine (h.opening_refused hserves hfair hv hseats hattached ho).of_writes fun j => ?_
    rw [writes_append, writes_spawned, writes_append]
  | @checked _ r₂ _ o₂ line line' command directory hv hseats hline hwrite hr hline' ho hstate _
      htrace =>
    obtain ⟨t, ht⟩ := ho.session_eq
    have hsession : ∀ j, o₂.state.session? j
        = if j = r.slots.length then some t else r₂.session? j := by
      intro j
      rw [ht, hr.session_eq]
      split <;> rfl
    rw [hstate, htrace]
    refine (h.opening_checked hserves hfair hv hseats hline hwrite hr hline' ho
      fun j => ?_).of_writes fun j => ?_
    · simp [hsent, hstate, isNew_of_seats hv hseats hsession]
    · rw [writes_append, writes_spawned, List.append_assoc, List.singleton_append, writes_append]

end Transcribed

end Registry

/-! ### Whole runs -/

namespace Bridge

open Registry

lemma transcribed_start (config : Config) :
    Registry.Serves { config } ∧ Registry.Fair { config } ∧
      Transcribed { config } [] fun _ => [] := by
  refine ⟨(standing_start config).serves,
    ⟨by simp [Stdin.WritesWell, SpawnPlan.child], fun _ _ _ hs => ?_⟩,
    ⟨fun _ => rfl, fun _ _ _ hfind => ?_, fun _ _ => rfl⟩⟩
  · cases hs
  · cases hfind

section Runs

variable [Limits]

lemma transcribed_openDocument {r : Registry} {tr : List Effect} {sent : Nat → List Request}
    (h : Transcribed r tr sent) (hserves : r.Serves) (hfair : r.Fair) (u text : String)
    (path : Option Path) :
    Transcribed ((Step.openDocument u text path).act.run r).state
      (tr ++ visible ((Step.openDocument u text path).act.run r).trace)
      fun j => sent j ++ (Step.openDocument u text path).requests j r := by
  rcases opening_openStep u text path hserves with ⟨o, ho, hrun⟩ | ⟨f, hrun⟩
  · rw [hrun]
    refine h.opening hserves hfair ho fun j => ?_
    rw [Step.requests, hrun]
  · rw [hrun]
    refine h.alike (fun j => ?_) (fun _ => rfl) (fun _ => rfl) fun _ => rfl
    rw [Step.requests, hrun, isNew_of_none fun _ => Iff.rfl]
    simp

lemma transcribed_changeDocument {r : Registry} {tr : List Effect} {sent : Nat → List Request}
    (h : Transcribed r tr sent) (hserves : r.Serves) (hfair : r.Fair) (u text : String) :
    Transcribed ((changeDocument u text).run r).state
      (tr ++ visible ((changeDocument u text).run r).trace)
      fun j => sent j ++ (Step.changeDocument u text).requests j r := by
  cases hfind : r.find? u with
  | none =>
    obtain ⟨notice, hrun⟩ := run_changeDocument_of_none hfind text
    rw [hrun]
    refine h.alike (fun j => ?_) (fun _ => rfl) (fun _ => rfl) fun _ => rfl
    simp [Step.requests, hfind]
  | some id =>
    obtain ⟨s, hs, hu, -⟩ := hserves u id hfind
    obtain ⟨c, hc⟩ := exists_child_of_session hs
    have hsend := sending_changeDocument hfind hs hc hu
      (Request.toLine_stamp (.check text) (s.lastQuery + 1))
    refine h.sending hserves hfind hs (hfair.pipes id s c hs hc) hsend rfl (fun _ => rfl)
      (.check text) rfl fun j => ?_
    by_cases hj : j = id
    · subst hj
      simp [Step.requests, hfind, hc]
    · simp [Step.requests, hfind, hj, Ne.symm hj]

lemma transcribed_hearing {r : Registry} {tr : List Effect} {sent sent' : Nat → List Request}
    {id : Nat} {text : List Char} {o : Outcome Registry Unit} (h : Transcribed r tr sent)
    (ho : Hearing id text r o) (hsent : ∀ j, sent' j = sent j) :
    Transcribed o.state (tr ++ visible o.trace) sent' := by
  cases ho with
  | deaf _ ho =>
    rw [ho]
    exact h.alike hsent (fun _ => rfl) (fun _ => rfl) fun _ => rfl
  | heard es ds hs _ _ hr _ htrace =>
    rw [htrace]
    exact h.revises_same hs rfl hr rfl hsent fun j => writes_events j es

lemma transcribed_exiting {r : Registry} {tr : List Effect} {sent sent' : Nat → List Request}
    {id : Nat} {code : Option Int} {o : Outcome Registry Unit} (h : Transcribed r tr sent)
    (hserves : r.Serves)
    (ho : Exiting id code r o) (hsent : ∀ j, sent' j = sent j) :
    Transcribed o.state (tr ++ visible o.trace) sent' := by
  cases ho with
  | deaf _ ho =>
    rw [ho]
    exact h.alike hsent (fun _ => rfl) (fun _ => rfl) fun _ => rfl
  | broken f hs _ _ _ _ hr _ htrace =>
    rw [htrace]
    exact h.revises_same hs rfl hr rfl hsent fun _ => rfl
  | lost es ds _ _ _ _ hfind _ hr _ _ htrace =>
    refine h.revises_none hserves hfind hr hsent fun j => ?_
    rw [htrace, writes_append, writes_events]
    rfl
  | cut f es ds _ _ _ _ hfind _ hr _ _ htrace =>
    rw [htrace]
    exact h.revises_none hserves hfind hr hsent fun j => writes_events j es
  | stray es ds hs _ _ _ hr _ htrace =>
    rw [htrace]
    exact h.revises_same hs rfl hr rfl hsent fun j => writes_events j es

/-- What every step keeps. -/
lemma transcribed_step {r : Registry} {tr : List Effect} {sent : Nat → List Request}
    (h : Transcribed r tr sent) (hserves : r.Serves) (hfair : r.Fair) (st : Step) :
    Transcribed (st.act.run r).state (tr ++ visible (st.act.run r).trace)
      fun j => sent j ++ st.requests j r := by
  have hnone : ∀ j, sent j ++ [] = sent j := fun j => List.append_nil _
  cases st with
  | openDocument u text path => exact transcribed_openDocument h hserves hfair u text path
  | changeDocument u text =>
    rw [Step.act, Act.run_map]
    exact transcribed_changeDocument h hserves hfair u text
  | closeDocument u =>
    rw [Step.act, Act.run_map, closeDocument, Act.run_log_bind]
    rcases close_cases u hserves with
      ⟨tr', r', b, htr', hv, hrun⟩ | ⟨id, s, c, f, r', hfind, -, -, -, hr, hrun⟩
    · rw [hrun]
      refine h.vacates hserves hv hnone fun j => ?_
      rw [visible_notice, htr']
      rfl
    · rw [hrun]
      exact h.revises_none hserves hfind hr hnone fun _ => rfl
  | shutdown =>
    obtain ⟨gone, hends, hsilent, -, -⟩ := ends_shutdown r
    rw [Step.act, Act.run_map, hsilent]
    refine h.silent hnone (fun _ => rfl) (fun v j t hj _ => ?_) fun j hj => ?_
    · rw [hends.find] at hj
      cases hj
    · rw [hends.session] at hj
      split at hj
      · exact Option.map_eq_none_iff.1 hj
      · exact hj
  | output id text =>
    rw [Step.act, Act.run_map]
    exact transcribed_hearing h (hearing_handleOutput id text r) hnone
  | exit id code =>
    rw [Step.act, Act.run_map]
    exact transcribed_exiting h hserves (exiting_handleExit id code r) hnone
  | reap id =>
    rw [Step.act, Act.run_map, (quiet_reap id r).silent]
    exact h.alike hnone (fun _ => rfl) (quiet_reap id r).alike.find (quiet_reap id r).alike.session
  | plan p => exact h.alike hnone (fun _ => rfl) (fun _ => rfl) fun _ => rfl
  | world change =>
    exact h.alike hnone (fun _ => rfl) (fun _ => rfl) fun j => (mapChildren_views change r j).1

/-- What holds after some steps that keep pipes fair. -/
lemma transcribed_run {r : Registry} (hserves : r.Serves) (hfair : r.Fair)
    (h : Transcribed r [] fun _ => []) (steps : List Step) (hsteps : ∀ st ∈ steps, st.IsFair) :
    (after steps r).Serves ∧ (after steps r).Fair ∧
      Transcribed (after steps r) (visible (trace steps r)) fun j => requests j steps r := by
  induction steps using List.reverseRecOn with
  | nil => exact ⟨hserves, hfair, h⟩
  | append_singleton steps st ih =>
    obtain ⟨hserves', hfair', h'⟩ := ih fun st hst => hsteps st (List.mem_append_left _ hst)
    have hst := hsteps st (List.mem_append_right _ List.mem_cons_self)
    rw [after_append, trace_append, visible_append, trace_singleton, after_singleton]
    refine ⟨(course_step hserves' st).serves hserves', hst.step hfair' hserves', ?_⟩
    simp only [requests_append, requests, List.append_nil]
    exact transcribed_step h' hserves' hfair' st

/-! ### Replies -/

/-- A change is answered with a number exactly if its query is taken. -/
lemma changeDocument_reply_iff {r : Registry} (hserves : r.Serves) (u text : String) (k : Nat) :
    ((Step.changeDocument u text).act.run r).result = .ok (.number (some k)) ↔
      ∃ j s, (Step.changeDocument u text).requests j r = [.check text] ∧ r.find? u = some j ∧
        r.session? j = some s ∧ k = s.lastQuery + 1 := by
  rw [Step.act, Act.run_map]
  cases hfind : r.find? u with
  | none =>
    obtain ⟨notice, hrun⟩ := run_changeDocument_of_none hfind text
    simp [hrun, Except.map]
  | some id =>
    obtain ⟨s, hs, hu, -⟩ := hserves u id hfind
    obtain ⟨c, hc⟩ := exists_child_of_session hs
    have hasked : (Step.changeDocument u text).requests id r = [.check text] ↔ c.takes = true := by
      simp [Step.requests, hfind, hc]
    have hreply : ((changeDocument u text).run r).result = .ok (some k) ↔
        c.takes = true ∧ k = s.lastQuery + 1 := by
      cases sending_changeDocument hfind hs hc hu (Query.toLine_fullBuffer text _) with
      | taken hwrite _ hresult _ =>
        rw [hresult, (c.takes_iff u).2 hwrite]
        simp [Session.counted, Session.cleared, eq_comm]
      | refused ho =>
        have hnone : ((changeDocument u text).run r).result ≠ .ok (some k) := by
          cases ho with
          | lost _ _ _ _ hresult _ => simp [hresult]
          | cut _ _ _ _ _ hresult _ => simp [hresult]
          | wild _ _ _ _ hresult _ => simp [hresult]
        simp [hnone, ho.not_takes]
    have hmap : ((changeDocument u text).run r).result.map Reply.number = .ok (.number (some k)) ↔
        ((changeDocument u text).run r).result = .ok (some k) := by
      cases ((changeDocument u text).run r).result <;> simp [Except.map]
    rw [hmap, hreply, ← hasked]
    constructor
    · rintro ⟨hrequests, hk⟩
      exact ⟨id, s, hrequests, rfl, hs, hk⟩
    · rintro ⟨j, t, hrequests, hj, ht, hk⟩
      cases hj
      rw [hs, Option.some.injEq] at ht
      exact ⟨hrequests, ht ▸ hk⟩

/-! ### The first request -/

/-- A slot got its session when a document was opened with a text. -/
def OpenedWith (id : Nat) (text : String) (steps : List Step) (r : Registry) : Prop :=
  ∃ before u path behind, steps = before ++ .openDocument u text path :: behind ∧
    (after before r).session? id = none ∧
    ((Step.openDocument u text path).act.run (after before r)).state.session? id ≠ none

lemma OpenedWith.append {id : Nat} {text : String} {steps : List Step} {r : Registry}
    (h : OpenedWith id text steps r) (more : List Step) : OpenedWith id text (steps ++ more) r := by
  obtain ⟨before, u, path, behind, rfl, hnone, hsome⟩ := h
  exact ⟨before, u, path, behind ++ more, by simp, hnone, hsome⟩

/-- What a step asks: the text and perhaps a check of it in a new session, or one check. -/
lemma requests_step_cases {st : Step} {id : Nat} {r : Registry} (h : st.requests id r ≠ []) :
    (∃ u text path, ∃ texts : List String, st = .openDocument u text path ∧ r.session? id = none ∧
        (st.act.run r).state.session? id ≠ none ∧
        st.requests id r = .add text :: texts.map .check) ∨
      ∃ u text, st = .changeDocument u text ∧ r.find? u = some id ∧
        st.requests id r = [.check text] := by
  cases st with
  | openDocument u text path =>
    left
    rw [Step.requests] at h ⊢
    split at h
    · rename_i hnew
      rw [Bool.and_eq_true, Option.isNone_iff_eq_none, Option.isSome_iff_ne_none] at hnew
      rw [if_pos (by simp [hnew.1, Option.isSome_iff_ne_none, hnew.2])]
      rw [Child.intake] at h ⊢
      split at h
      · rename_i htakes
        rw [if_pos htakes]
        split
        · exact ⟨u, text, path, [text], rfl, hnew.1, hnew.2, rfl⟩
        · exact ⟨u, text, path, [], rfl, hnew.1, hnew.2, rfl⟩
      · exact absurd rfl h
    · exact absurd rfl h
  | changeDocument u text =>
    right
    rw [Step.requests] at h ⊢
    split at h
    · rename_i htakes
      rw [if_pos htakes]
      rw [Bool.and_eq_true, decide_eq_true_eq] at htakes
      exact ⟨u, text, rfl, htakes.1, rfl⟩
    · exact absurd rfl h
  | _ => exact absurd rfl h

/-- The first request is the text with which the document was opened, and all others are checks. -/
lemma requests_shape {r : Registry} (hserves : r.Serves) (hfair : r.Fair)
    (h : Transcribed r [] fun _ => []) (id : Nat) (steps : List Step)
    (hsteps : ∀ st ∈ steps, st.IsFair) :
    requests id steps r = [] ∨ ∃ text, ∃ texts : List String, OpenedWith id text steps r ∧
      requests id steps r = .add text :: texts.map .check := by
  induction steps using List.reverseRecOn with
  | nil => exact .inl rfl
  | append_singleton steps st ih =>
    have hbefore : ∀ st ∈ steps, st.IsFair := fun st hst => hsteps st (List.mem_append_left _ hst)
    obtain ⟨hserves', -, h'⟩ := transcribed_run hserves hfair h steps hbefore
    have hone : requests id [st] (after steps r) = st.requests id (after steps r) :=
      List.append_nil _
    rw [requests_append, hone]
    by_cases hst : st.requests id (after steps r) = []
    · rw [hst, List.append_nil]
      rcases ih hbefore with hnone | ⟨text, texts, hopened, hsent⟩
      · exact .inl hnone
      · exact .inr ⟨text, texts, hopened.append [st], hsent⟩
    · right
      rcases requests_step_cases hst with
        ⟨u, text, path, texts, rfl, hnone, hsome, hsent⟩ | ⟨u, text, rfl, hfind, hsent⟩
      · refine ⟨text, texts, ⟨steps, u, path, [], rfl, hnone, hsome⟩, ?_⟩
        rw [h'.known id hnone, hsent]
        rfl
      · obtain ⟨s, hs, -, -⟩ := hserves' u id hfind
        rcases ih hbefore with hnone | ⟨text', texts, hopened, hsent'⟩
        · exact absurd hnone (h'.counted u id s hfind hs).2
        · exact ⟨text', texts ++ [text], hopened.append _, by rw [hsent', hsent]; simp⟩

/-- Whatever is asked of a checker, it can read: its bytes are UTF-8, and each of their lines is the
request of that number. The first line has the text with which the document was opened, every other
line the text of a check. A change is answered with the number of its line, and with no number
exactly if there is no such line. The session that serves a document knows how many lines there
are. -/
theorem checkers_read_requests (config : Config) (steps : List Step)
    (hsteps : ∀ st ∈ steps, st.IsFair) (id : Nat) :
    let r : Registry := { config }
    let bytes := stdinBytes id (trace steps r)
    let sent := requests id steps r
    (∃ text lines, Utf8.decodeStrict bytes = .ok text ∧ text.splitOn '\n' = lines ++ [[]] ∧
      lines.map Json.read = sent.zipIdx.map fun q => .ok (q.1.wire (q.2 + 1))) ∧
    (bytes = [] ∨ bytes.getLast? = some 10) ∧
    (sent = [] ∨ ∃ text, ∃ texts : List String, OpenedWith id text steps r ∧
      sent = .add text :: texts.map .check) ∧
    (∀ before u text behind k, steps = before ++ .changeDocument u text :: behind →
      (((Step.changeDocument u text).act.run (after before r)).result = .ok (.number (some k)) ↔
        ∃ j, (Step.changeDocument u text).requests j (after before r) = [.check text] ∧
          k = (requests j before r).length + 1)) ∧
    ∀ u s, (after steps r).find? u = some id → (after steps r).session? id = some s →
      s.lastQuery = sent.length := by
  intro r bytes sent
  obtain ⟨hserves, hfair, hstart⟩ := transcribed_start config
  obtain ⟨-, -, h⟩ := transcribed_run hserves hfair hstart steps hsteps
  have hbytes : bytes = Utf8.encode ((transcript sent).flatMap (· ++ ['\n'])) :=
    stdinBytes_of_writes (by rw [← writes_visible]; exact h.written id)
  refine ⟨⟨(transcript sent).flatMap (· ++ ['\n']), transcript sent, ?_, ?_,
    map_read_transcript sent⟩, ?_, ?_, ?_, ?_⟩
  · rw [hbytes]
    exact Utf8.decodeStrict_encode _
  · rw [LineBuffer.splitOn_newline,
      LineBuffer.split_flatMap_newline fun _ => newline_notMem_transcript]
  · rw [hbytes]
    exact getLast?_encode_lines _
  · exact requests_shape hserves hfair hstart id steps hsteps
  · rintro before u text behind k rfl
    have hbefore : ∀ st ∈ before, st.IsFair := fun st hst => hsteps st (List.mem_append_left _ hst)
    obtain ⟨hserves', -, h'⟩ := transcribed_run hserves hfair hstart before hbefore
    rw [changeDocument_reply_iff hserves']
    constructor
    · rintro ⟨j, s, hasked, hj, hs, rfl⟩
      exact ⟨j, hasked, by rw [(h'.counted u j s hj hs).1]⟩
    · rintro ⟨j, hasked, rfl⟩
      rcases requests_step_cases (by rw [hasked]; simp) with
        ⟨_, _, _, _, hst, -⟩ | ⟨v, _, hst, hj, -⟩
      · cases hst
      · cases hst
        obtain ⟨s, hs, -, -⟩ := hserves' u j hj
        exact ⟨j, s, hasked, hj, hs, by rw [(h'.counted u j s hj hs).1]⟩
  · intro u s hfind hs
    exact (h.counted u id s hfind hs).1

end Runs

/-- A document is opened with a text of many kinds of characters and changed. The checker of another
document takes only the text. Then no write is taken any more, and the first document is changed
again. -/
def refusedChecks : List Step :=
  [.openDocument "a" "let \"é\"\n\\ ∀" (some {}),
   .changeDocument "a" "y",
   .plan { script := [none, some (.value "closed")] },
   .openDocument "b" "w" (some {}),
   .world fun _ c => { c with stdin := { c.stdin with writeError := some (.value "closed") } },
   .changeDocument "a" "z"]

theorem checkers_read_refusedChecks :
    requests 0 refusedChecks { config := {} }
        = [.add "let \"é\"\n\\ ∀", .check "let \"é\"\n\\ ∀", .check "y"] ∧
      requests 1 refusedChecks { config := {} } = [.add "w"] ∧
      ∀ id, ∃ text lines,
        Utf8.decodeStrict (stdinBytes id (trace refusedChecks { config := {} })) = .ok text ∧
        text.splitOn '\n' = lines ++ [[]] ∧
        lines.map Json.read = (requests id refusedChecks { config := {} }).zipIdx.map fun q =>
          .ok (q.1.wire (q.2 + 1)) := by
  have hfair : ∀ st ∈ refusedChecks, st.IsFair := by
    intro st hst
    simp only [refusedChecks, List.mem_cons, List.not_mem_nil, or_false] at hst
    rcases hst with rfl | rfl | rfl | rfl | rfl | rfl
    case inr.inr.inl => simp [Step.IsFair, Stdin.WritesWell, SpawnPlan.child]
    case inr.inr.inr.inr.inl =>
      intro _ c hc
      exact ⟨hc.attached, fun text hmem => hc.write text (by simpa using Or.inr hmem)⟩
    all_goals trivial
  refine ⟨by decide +kernel, by decide +kernel, fun id => ?_⟩
  exact (checkers_read_requests {} refusedChecks hfair id).1

end Bridge

end ProverLink
