import ProverLink.Proofs.Dispatch
import ProverLink.Proofs.Grammar
import ProverLink.Proofs.Positions

/-!
# The effect of a line

What a session tells the editor upon a line, said in terms of the JSON that the line is. An object
either accepts a piece of the document, or it complains; both count only if the object belongs to
no query before the last check and names places that the editor has. Such a line gives exactly one
event, and any other line none.
-/

namespace ProverLink

open Json Fields

/-! ### What the editor shows -/

/-- A position one line above a coordinate, in the same column. -/
def Position.IsOf (p : Position) (c : Coordinate) : Prop :=
  (p.line : Int) = c.line - 1 ∧ (p.character : Int) = c.column

/-- A range one line above a stretch of the source, in the same columns. -/
def Range.IsOf (range : Range) (r : SourceRange) : Prop :=
  range.start.IsOf r.start ∧ range.stop.IsOf r.stop

/-- A diagnostic at the first range of a complaint, or at the beginning if there is none. -/
structure Diagnostic.IsOf (d : Diagnostic) (c : Complaint) : Prop where
  message : d.message = c.message
  origin : d.origin = .checker
  unplaced : c.ranges = [] → d.range = .documentStart
  placed : ∀ r, c.ranges.head? = some r → d.range.IsOf r

/-! ### What an object says -/

/-- The numbers that an id stands for. A text is read more freely than where an integer is
wanted. -/
inductive Json.IsQueryNumber : Json → Int → Prop where
  | text {t : Text} {i : Int} : Decimal.read? t = some i → IsQueryNumber (.str t) i
  | number {v : Json} {i : Int} : (∀ t, v ≠ .str t) → IsInteger v i → IsQueryNumber v i

namespace Fields

/-- An object that belongs to no query before a check. One without an id, or with an id that is no
number, belongs to none. -/
def IsCurrent (fields : Fields) (check : Int) : Prop :=
  ∀ v i, fields.get? (Text.ofString (Checked.idName fields)) = some v → v.IsQueryNumber i →
    check ≤ i

/-- An object that is a message with a given tag. -/
def Validates (fields : Fields) (tag : Tag) : Prop :=
  ∃ m : Message, m.body.tag = tag ∧ m.IsWritten fields

/-- An object that accepts a stretch of the source. -/
structure Accepts (fields : Fields) (check : Int) (r : SourceRange) : Prop where
  validates : fields.Validates .progress
  current : fields.IsCurrent check
  contents : ∃ contents : Fields, fields.get? (Text.ofString "contents") = some (.obj contents) ∧
    contents.HasWord "stage" "full-buffer-fragment-ok" ∧
    contents.Has "ranges" (IsObject SourceRange.IsWritten) r
  inRange : r.InRange

/-- An object that complains, with at least one entry. -/
structure Complains (fields : Fields) (check : Int) (entries : List Complaint) : Prop where
  validates : fields.Validates .failure
  current : fields.IsCurrent check
  response : fields.Has "response" (IsList (IsObject Complaint.IsWritten)) entries
  nonempty : entries ≠ []
  inRange : ∀ c ∈ entries, c.InRange

/-! ### Fields -/

variable {α : Type} {fields : Fields} {name : String} {R : Json → α → Prop}

/-- A field that may be missing is there if it has not its default. -/
lemma mayHave_iff_has {default a : α} (h : a ≠ default) :
    fields.MayHave name R default a ↔ fields.Has name R a := by
  constructor
  · intro hfield
    cases hfield with
    | absent _ => exact absurd rfl h
    | present hv ha => exact ⟨_, hv, ha⟩
  · rintro ⟨v, hv, ha⟩
    exact .present hv ha

lemma MayHave.of_get? {default a : α} {v : Json} (h : fields.MayHave name R default a)
    (hv : fields.get? (Text.ofString name) = some v) : R v a := by
  cases h with
  | absent hnone =>
    rw [hnone] at hv
    cases hv
  | present hsome ha =>
    rw [hsome, Option.some.injEq] at hv
    exact hv ▸ ha

/-- A field that may be null or missing has a value exactly if it is there and stands for it. -/
lemma MayHave.eq_some_iff {a : Option α} {x : α} (h : fields.MayHave name (IsNullOr R) none a)
    (hnull : ∀ a, ¬R .null a) (hunique : ∀ v a b, R v a → R v b → a = b) :
    a = some x ↔ fields.Has name R x := by
  constructor
  · rintro rfl
    obtain ⟨v, hv, ha⟩ := (mayHave_iff_has (by simp)).1 h
    cases ha with
    | value _ ha => exact ⟨v, hv, ha⟩
  · rintro ⟨v, hv, hx⟩
    cases h.of_get? hv with
    | null => exact absurd hx (hnull x)
    | value _ ha => rw [hunique v _ x ha hx]

lemma has_isText_iff (word : String) :
    fields.Has name IsText (Text.ofString word) ↔ fields.HasWord name word := by
  constructor
  · rintro ⟨v, hv, ⟨⟩⟩
    exact hv
  · intro hv
    exact ⟨_, hv, .mk _⟩

end Fields

/-! ### Places -/

lemma Position.ofCoordinate_eq_ok_iff {c : Coordinate} {p : Position} :
    ofCoordinate c = .ok p ↔ c.InRange ∧ p.IsOf c := by
  by_cases h : c.InRange
  · rw [ofCoordinate_of_inRange h, Except.ok.injEq]
    obtain ⟨hline, hcolumn⟩ : 1 ≤ c.line ∧ 0 ≤ c.column := ⟨h.1, h.2.2.1⟩
    constructor
    · rintro rfl
      exact ⟨h, by simp only [IsOf]; omega⟩
    · rintro ⟨-, hp, hp'⟩
      obtain ⟨line, character⟩ := p
      simp only at hp hp'
      rw [mk.injEq]
      omega
  · obtain ⟨f, hf⟩ := ofCoordinate_eq_error h
    simp [hf, h]

lemma Range.ofCoordinates_eq_ok_iff {r : SourceRange} {range : Range} :
    ofCoordinates r.start r.stop = .ok range ↔ r.InRange ∧ range.IsOf r := by
  by_cases h : r.InRange
  · have hstart := Position.ofCoordinate_of_inRange h.1
    have hstop := Position.ofCoordinate_of_inRange h.2
    rw [ofCoordinates_of_inRange h.1 h.2, Except.ok.injEq]
    constructor
    · rintro rfl
      exact ⟨h, (Position.ofCoordinate_eq_ok_iff.1 hstart).2,
        (Position.ofCoordinate_eq_ok_iff.1 hstop).2⟩
    · rintro ⟨-, hrange⟩
      rw [Position.ofCoordinate_eq_ok_iff.2 ⟨h.1, hrange.1⟩, Except.ok.injEq] at hstart
      rw [Position.ofCoordinate_eq_ok_iff.2 ⟨h.2, hrange.2⟩, Except.ok.injEq] at hstop
      rw [← hstart, ← hstop]
  · obtain ⟨f, hf⟩ := ofCoordinates_eq_error h
    simp [hf, h]

lemma Diagnostic.ofComplaint_eq_ok_iff {c : Complaint} {d : Diagnostic} :
    ofComplaint c = .ok d ↔ c.InRange ∧ d.IsOf c := by
  obtain ⟨range, message, origin⟩ := d
  rw [ofComplaint, Complaint.InRange]
  rcases hr : c.ranges with _ | ⟨r, rest⟩
  · simp only [Except.ok.injEq, mk.injEq]
    constructor
    · rintro ⟨rfl, rfl, rfl⟩
      exact ⟨by simp, rfl, rfl, fun _ => rfl, by simp [hr]⟩
    · rintro ⟨-, hmessage, horigin, hunplaced, -⟩
      exact ⟨(hunplaced hr).symm, hmessage.symm, horigin.symm⟩
  · have hbind : (do
        let range ← Range.ofCoordinates r.start r.stop
        Except.ok ({ range, message := c.message, origin := .checker } : Diagnostic))
          = Except.ok ({ range, message, origin } : Diagnostic) ↔
        Range.ofCoordinates r.start r.stop = .ok range ∧ message = c.message ∧
        origin = .checker := by
      cases Range.ofCoordinates r.start r.stop with
      | error f => simp [bind, Except.bind]
      | ok range' => simp [bind, Except.bind, eq_comm]
    rw [hbind, Range.ofCoordinates_eq_ok_iff]
    constructor
    · rintro ⟨⟨hin, hrange⟩, hmessage, horigin⟩
      exact ⟨by simpa using hin, hmessage, horigin, by simp [hr], by simpa [hr] using hrange⟩
    · rintro ⟨hin, hmessage, horigin, -, hplaced⟩
      exact ⟨⟨hin r rfl, hplaced r (by rw [hr]; rfl)⟩, hmessage, horigin⟩

lemma Diagnostic.mapM_ofComplaint_eq_ok_iff {entries : List Complaint} {ds : List Diagnostic} :
    entries.mapM ofComplaint = .ok ds ↔
      (∀ c ∈ entries, c.InRange) ∧ List.Forall₂ (fun c d => d.IsOf c) entries ds := by
  induction entries generalizing ds with
  | nil => simp [pure, Except.pure, eq_comm]
  | cons c rest ih =>
    have hcons : (c :: rest).mapM ofComplaint = .ok ds ↔
        ∃ d ds', ofComplaint c = .ok d ∧ rest.mapM ofComplaint = .ok ds' ∧ ds = d :: ds' := by
      rw [List.mapM_cons]
      cases ofComplaint c with
      | error f => simp [bind, Except.bind]
      | ok d => cases rest.mapM ofComplaint <;> simp [bind, Except.bind, pure, Except.pure, eq_comm]
    simp only [hcons, ofComplaint_eq_ok_iff, ih, List.forall_mem_cons, List.forall₂_cons_left_iff]
    constructor
    · rintro ⟨d, ds', ⟨hc, hd⟩, ⟨hrest, hds⟩, rfl⟩
      exact ⟨⟨hc, hrest⟩, d, ds', hd, hds, rfl⟩
    · rintro ⟨⟨hc, hrest⟩, d, ds', hd, hds, rfl⟩
      exact ⟨d, ds', ⟨hc, hd⟩, ⟨hrest, hds⟩, rfl⟩

/-! ### What messages yield -/

lemma Progress.IsWritten.stage_iff {contents : Fields} {p : Progress} (h : p.IsWritten contents) :
    p.stage = some Session.fragmentOk ↔ contents.HasWord "stage" "full-buffer-fragment-ok" := by
  rw [h.stage.eq_some_iff nofun, Session.fragmentOk, Fields.has_isText_iff]
  rintro v a b ⟨⟩ ⟨⟩
  rfl

lemma Progress.IsWritten.range_iff {contents : Fields} {p : Progress} {r : SourceRange}
    (h : p.IsWritten contents) :
    p.range = some r ↔ contents.Has "ranges" (IsObject SourceRange.IsWritten) r := by
  apply h.range.eq_some_iff nofun
  intro v a b ha hb
  rw [← SourceRange.ofJson_eq_ok_iff] at ha hb
  exact Except.ok.inj (ha.symm.trans hb)

lemma Progress.finding_eq_checked_iff {p : Progress} {range : Range} :
    p.finding = .ok (.checked range) ↔
      p.stage = some Session.fragmentOk ∧ ∃ r, p.range = some r ∧ r.InRange ∧ range.IsOf r := by
  rw [finding]
  cases p.range with
  | none => simp
  | some r =>
    by_cases hs : p.stage = some Session.fragmentOk
    · simp only [hs, if_true, true_and, Option.some.injEq, exists_eq_left',
        ← Range.ofCoordinates_eq_ok_iff]
      cases Range.ofCoordinates r.start r.stop <;> simp [Except.map]
    · simp [hs]

lemma Progress.finding_ne_errors (p : Progress) (ds : List Diagnostic) :
    p.finding ≠ .ok (.errors ds) := by
  rw [finding]
  cases p.range with
  | none => simp
  | some r =>
    by_cases hs : p.stage = some Session.fragmentOk
    · simp only [hs, if_true]
      cases Range.ofCoordinates r.start r.stop <;> simp [Except.map]
    · simp [hs]

lemma Answer.finding_eq_errors_iff {answer : Answer} {ds : List Diagnostic} :
    answer.finding = .ok (.errors ds) ↔
      ∃ entries, answer = .complaints entries ∧ (∀ c ∈ entries, c.InRange) ∧
        List.Forall₂ (fun c d => d.IsOf c) entries ds := by
  cases answer with
  | empty => simp [finding]
  | rejection reason => simp [finding]
  | complaints entries =>
    simp only [finding, complaints.injEq, exists_eq_left', ← Diagnostic.mapM_ofComplaint_eq_ok_iff]
    cases entries.mapM Diagnostic.ofComplaint <;> simp [Except.map]

lemma Answer.finding_ne_checked (answer : Answer) (range : Range) :
    answer.finding ≠ .ok (.checked range) := by
  cases answer with
  | empty => simp [finding]
  | rejection reason => simp [finding]
  | complaints entries =>
    simp only [finding]
    cases entries.mapM Diagnostic.ofComplaint <;> simp [Except.map]

namespace Message

variable {fields : Fields} {m : Message}

/-- The number of a message is the one that its id stands for. -/
lemma IsWritten.queryNumber_eq_some_iff (h : m.IsWritten fields) (i : Int) :
    m.queryNumber = some i ↔
      ∃ v, fields.get? (Text.ofString (Checked.idName fields)) = some v ∧ v.IsQueryNumber i := by
  have hid := h.id
  rw [queryNumber]
  generalize m.queryId = id at hid
  cases hid with
  | absent hnone => simp [hnone]
  | @present v _ hv hid =>
    simp only [hv, Option.some.injEq, exists_eq_left']
    cases hid with
    | null =>
      simp only [Option.bind_none, reduceCtorEq, false_iff]
      rintro (_ | ⟨-, ⟨⟩⟩)
    | value _ hid =>
      cases hid with
      | text t =>
        simp only [Option.bind_some, QueryId.number?]
        constructor
        · exact .text
        · rintro (ht | ⟨hstr, -⟩)
          · exact ht
          · exact absurd rfl (hstr t)
      | @number _ j hstr hj =>
        simp only [Option.bind_some, QueryId.number?, Option.some.injEq]
        constructor
        · rintro rfl
          exact .number hstr hj
        · rintro (_ | ⟨-, hi⟩)
          · exact absurd rfl (hstr _)
          · rw [← Checked.integer_eq_ok_iff] at hi hj
            rw [hi, Except.ok.injEq] at hj
            exact hj.symm

lemma IsWritten.precedes_eq_false_iff (h : m.IsWritten fields) (check : Int) :
    m.precedes check = false ↔ fields.IsCurrent check := by
  rw [precedes, IsCurrent]
  constructor
  · intro hprecedes v i hv hi
    have hnumber := (h.queryNumber_eq_some_iff i).2 ⟨v, hv, hi⟩
    simpa [hnumber] using hprecedes
  · intro hcurrent
    rcases hnumber : m.queryNumber with _ | i
    · rfl
    · obtain ⟨v, hv, hi⟩ := (h.queryNumber_eq_some_iff i).1 hnumber
      simpa using hcurrent v i hv hi

/-- Only progress shows that a stretch is checked. -/
lemma finding_eq_checked {check : Int} {range : Range}
    (h : m.finding check = .ok (.checked range)) :
    m.precedes check = false ∧ ∃ p, m.body = .progress p ∧ p.finding = .ok (.checked range) := by
  rw [finding] at h
  by_cases hp : m.precedes check = true
  · rw [if_pos hp] at h
    cases h
  · rw [if_neg hp] at h
    refine ⟨by simpa using hp, ?_⟩
    rcases hbody : m.body with _ | p | answer | _ | _
    case progress => exact ⟨p, rfl, by simpa only [hbody] using h⟩
    case failure => exact absurd (by simpa only [hbody] using h) (answer.finding_ne_checked range)
    all_goals simp [hbody] at h

/-- Only failures give diagnostics. -/
lemma finding_eq_errors {check : Int} {ds : List Diagnostic}
    (h : m.finding check = .ok (.errors ds)) :
    m.precedes check = false ∧ ∃ answer, m.body = .failure answer ∧
      answer.finding = .ok (.errors ds) := by
  rw [finding] at h
  by_cases hp : m.precedes check = true
  · rw [if_pos hp] at h
    cases h
  · rw [if_neg hp] at h
    refine ⟨by simpa using hp, ?_⟩
    rcases hbody : m.body with _ | p | answer | _ | _
    case progress => exact absurd (by simpa only [hbody] using h) (p.finding_ne_errors ds)
    case failure => exact ⟨answer, rfl, by simpa only [hbody] using h⟩
    all_goals simp [hbody] at h

lemma IsWritten.accepts_iff (h : m.IsWritten fields) {check : Int} {range : Range} :
    m.finding check = .ok (.checked range) ↔ ∃ r, fields.Accepts check r ∧ range.IsOf r := by
  have hbody := h.body
  constructor
  · intro hfinding
    obtain ⟨hprecedes, p, hp, hchecked⟩ := finding_eq_checked hfinding
    obtain ⟨hstage, r, hr, hin, hrange⟩ := Progress.finding_eq_checked_iff.1 hchecked
    rw [hp] at hbody
    cases hbody with
    | progress hcontents =>
      have hne : p ≠ {} := by
        rintro rfl
        cases hstage
      obtain ⟨_, hget, ⟨hwritten⟩⟩ := (mayHave_iff_has hne).1 hcontents
      exact ⟨r, ⟨⟨m, by rw [hp]; rfl, h⟩, (h.precedes_eq_false_iff check).1 hprecedes,
        ⟨_, hget, hwritten.stage_iff.1 hstage, hwritten.range_iff.1 hr⟩, hin⟩, hrange⟩
  · rintro ⟨r, ⟨⟨m', htag, h'⟩, hcurrent, ⟨contents, hget, hstage, hr⟩, hin⟩, hrange⟩
    rw [← interpret_eq_of_isWritten h', interpret_eq_of_isWritten h] at htag
    rcases hp : m.body with _ | p | _ | _ | _
    case progress =>
      rw [hp] at hbody
      cases hbody with
      | progress hcontents =>
        cases hcontents.of_get? hget with
        | mk hwritten =>
          have hchecked := Progress.finding_eq_checked_iff.2
            ⟨hwritten.stage_iff.2 hstage, r, hwritten.range_iff.2 hr, hin, hrange⟩
          simp [finding, (h.precedes_eq_false_iff check).2 hcurrent, hp, hchecked]
    all_goals
      rw [hp] at htag
      cases htag

lemma IsWritten.complains_iff (h : m.IsWritten fields) {check : Int} {ds : List Diagnostic} :
    (m.finding check = .ok (.errors ds) ∧ ds ≠ []) ↔
      ∃ entries, fields.Complains check entries ∧
        List.Forall₂ (fun c d => d.IsOf c) entries ds := by
  have hbody := h.body
  constructor
  · rintro ⟨hfinding, hne⟩
    obtain ⟨hprecedes, answer, hanswer, herrors⟩ := finding_eq_errors hfinding
    obtain ⟨entries, rfl, hin, hds⟩ := Answer.finding_eq_errors_iff.1 herrors
    rw [hanswer] at hbody
    cases hbody with
    | failure hresponse =>
      obtain ⟨v, hget, hv⟩ := (mayHave_iff_has (by simp)).1 hresponse
      cases hv with
      | list hentries =>
        refine ⟨entries, ⟨⟨m, by rw [hanswer]; rfl, h⟩, (h.precedes_eq_false_iff check).1 hprecedes,
          ⟨v, hget, hentries⟩, ?_, hin⟩, hds⟩
        rintro rfl
        exact hne (List.forall₂_nil_left_iff.1 hds)
  · rintro ⟨entries, ⟨⟨m', htag, h'⟩, hcurrent, ⟨v, hget, hentries⟩, hne, hin⟩, hds⟩
    rw [← interpret_eq_of_isWritten h', interpret_eq_of_isWritten h] at htag
    rcases hanswer : m.body with _ | _ | answer | _ | _
    case failure =>
      rw [hanswer] at hbody
      cases hbody with
      | failure hresponse =>
        have hwritten := hresponse.of_get? hget
        have hlist := Answer.IsWritten.list hentries
        rw [← Answer.ofJson_eq_ok_iff] at hwritten hlist
        rw [hwritten, Except.ok.injEq] at hlist
        have herrors := Answer.finding_eq_errors_iff.2 ⟨entries, hlist, hin, hds⟩
        refine ⟨by simp [finding, (h.precedes_eq_false_iff check).2 hcurrent, hanswer, herrors], ?_⟩
        rintro rfl
        exact hne (List.forall₂_nil_right_iff.1 hds)
    all_goals
      rw [hanswer] at htag
      cases htag

end Message

/-! ### What lines yield -/

namespace Json

lemma scalar_ne_obj (cs rest : List Char) (fields : Fields) :
    scalar cs ≠ .ok (.obj fields, rest) := by
  have hnumber : ∀ start negative cs, number start negative cs ≠ .ok (.obj fields, rest) := by
    intro start negative cs h
    rw [number] at h
    split at h
    · cases h
    · simp only at h
      split at h
      · split at h <;> cases h
      · cases h
  intro h
  unfold scalar at h
  split at h
  · rename_i r hr
    obtain ⟨w, hw, hmap⟩ := List.exists_of_findSome?_eq_some hr
    obtain ⟨rest', -, hrest⟩ := Option.map_eq_some_iff.1 hmap
    have hobj : w.2 = .obj fields := by
      rw [← hrest, Except.ok.injEq, Prod.mk.injEq] at h
      exact h.1
    simp only [words, List.mem_cons, List.not_mem_nil, or_false] at hw
    rcases hw with rfl | rfl | rfl | rfl | rfl | rfl <;> cases hobj
  · split at h
    · exact hnumber _ _ _ h
    · exact hnumber _ _ _ h

variable [Limits]

/-- An object has a brace. -/
lemma brace_mem_of_read {cs : List Char} {fields : Fields} (h : read cs = .ok (.obj fields)) :
    '\x7b' ∈ cs := by
  have hdocument : document cs = .ok (.obj fields) := by
    rw [read] at h
    rcases hd : document cs with e | v
    · rw [hd] at h
      cases h
    · rw [hd] at h
      cases h
      rfl
  rw [document] at hdocument
  split at hdocument
  · cases hdocument
  · rcases hv : value (2 * (skip cs).length + 1) Limits.json (skip cs) with e | ⟨v, rest⟩
    · simp [hv, bind, Except.bind] at hdocument
    · have hobj : v = .obj fields := by
        simp only [hv, bind, Except.bind] at hdocument
        split at hdocument
        · exact Except.ok.inj hdocument
        · cases hdocument
      subst hobj
      have hbrace : ∃ tail, skip cs = '\x7b' :: tail := by
        unfold value at hv
        split at hv
        · simp only [bind, Except.bind] at hv
          split at hv <;> cases hv
        · simp only [bind, Except.bind] at hv
          split at hv
          · cases hv
          · split at hv
            · cases hv
            · split at hv <;> cases hv
        · exact ⟨_, by assumption⟩
        · exact absurd hv (scalar_ne_obj _ _ _)
      obtain ⟨tail, htail⟩ := hbrace
      have hmem : '\x7b' ∈ skip cs := by simp [htail]
      exact (List.dropWhile_sublist _).subset hmem

lemma not_allBlank_of_read {cs : List Char} {fields : Fields} (h : read cs = .ok (.obj fields)) :
    Blank.allBlank cs = false := by
  rw [Blank.allBlank, List.all_eq_false]
  exact ⟨_, brace_mem_of_read h, by decide⟩

end Json

namespace Session

variable [Limits]

/-- A line that yields something is an object of the grammar. -/
lemma finding_eq_ok_iff {check : Int} {line : List Char} {f : Finding} (hf : f ≠ .nothing) :
    finding check line = .ok f ↔
      ∃ (fields : Fields) (m : Message), Json.read line = .ok (.obj fields) ∧ m.IsWritten fields ∧
        m.finding check = .ok f := by
  constructor
  · intro h
    rw [finding] at h
    split at h
    · cases h
      exact absurd rfl hf
    · rcases hv : Json.read line with e | v
      · cases e <;> simp [Message.parse, hv, Except.map] at h
        exact absurd h.symm hf
      · simp only [Message.parse, hv, Except.map] at h
        have htag : (Message.interpret v).body.tag ≠ .unhandled := by
          intro htag
          have hnothing : (Message.interpret v).finding check = .ok .nothing := by
            rw [Message.finding]
            rcases hbody : (Message.interpret v).body with _ | _ | _ | _ | _
            case unhandled => rw [ite_self]
            all_goals
              rw [hbody] at htag
              cases htag
          rw [hnothing, Except.ok.injEq] at h
          exact hf h.symm
        obtain ⟨fields, rfl, hwritten⟩ := Message.isWritten_of_interpret htag
        exact ⟨fields, _, rfl, hwritten, h⟩
  · rintro ⟨fields, m, hread, hwritten, h⟩
    rw [finding, if_neg (by rw [not_allBlank_of_read hread]; simp)]
    simp only [Message.parse, hread, Except.map, Message.interpret_eq_of_isWritten hwritten, h]

lemma finding_eq_checked_iff {check : Int} {line : List Char} {range : Range} :
    finding check line = .ok (.checked range) ↔
      ∃ (fields : Fields) (r : SourceRange), Json.read line = .ok (.obj fields) ∧
        fields.Accepts check r ∧ range.IsOf r := by
  rw [finding_eq_ok_iff (f := .checked range) nofun]
  constructor
  · rintro ⟨fields, m, hread, hwritten, hfinding⟩
    obtain ⟨r, haccepts, hrange⟩ := hwritten.accepts_iff.1 hfinding
    exact ⟨fields, r, hread, haccepts, hrange⟩
  · rintro ⟨fields, r, hread, haccepts, hrange⟩
    obtain ⟨m, -, hwritten⟩ := haccepts.validates
    exact ⟨fields, m, hread, hwritten, hwritten.accepts_iff.2 ⟨r, haccepts, hrange⟩⟩

lemma finding_eq_errors_iff {check : Int} {line : List Char} {ds : List Diagnostic} :
    (finding check line = .ok (.errors ds) ∧ ds ≠ []) ↔
      ∃ (fields : Fields) (entries : List Complaint), Json.read line = .ok (.obj fields) ∧
        fields.Complains check entries ∧ List.Forall₂ (fun c d => d.IsOf c) entries ds := by
  rw [finding_eq_ok_iff (f := .errors ds) nofun]
  constructor
  · rintro ⟨⟨fields, m, hread, hwritten, hfinding⟩, hne⟩
    obtain ⟨entries, hcomplains, hds⟩ := hwritten.complains_iff.1 ⟨hfinding, hne⟩
    exact ⟨fields, entries, hread, hcomplains, hds⟩
  · rintro ⟨fields, entries, hread, hcomplains, hds⟩
    obtain ⟨m, -, hwritten⟩ := hcomplains.validates
    obtain ⟨hfinding, hne⟩ := hwritten.complains_iff.2 ⟨entries, hcomplains, hds⟩
    exact ⟨⟨fields, m, hread, hwritten, hfinding⟩, hne⟩

/-! ### One line -/

/-- What the editor is told upon a line. -/
def told (line : List Char) (s : Session) : List EditorEvent :=
  events ((dispatchLine line).run s).trace

lemma told_eq (line : List Char) (s : Session) :
    told line s = (yield s.checkQuery line).events s.uri s.diagnostics := by
  rw [told, ← events_visible, (reacts_dispatchLine line s).visible, events_map_event, yield]

lemma state_dispatchLine (line : List Char) (s : Session) :
    ((dispatchLine line).run s).state
      = { s with diagnostics := s.diagnostics ++ (yield s.checkQuery line).diagnostics } :=
  (reacts_dispatchLine line s).state

/-- A line yields something only if it is no fault. -/
lemma yield_eq_iff {check : Int} {line : List Char} {f : Finding} (hf : f ≠ .nothing) :
    yield check line = f ↔ finding check line = .ok f := by
  rw [yield]
  rcases finding check line with e | g
  · simp only [Except.toOption, Option.getD_none, reduceCtorEq, iff_false]
    exact hf.symm
  · simp [Except.toOption]

lemma statusOk_mem_told_iff {line : List Char} {s : Session} {range : Range} :
    .statusOk s.uri [range] ∈ told line s ↔ yield s.checkQuery line = .checked range := by
  rw [told_eq]
  rcases yield s.checkQuery line with _ | range' | _ | ⟨d, ds⟩ <;>
    simp [Finding.events, eq_comm]

lemma publish_mem_told_iff {line : List Char} {s : Session} {shown : List Diagnostic} :
    .publish s.uri shown ∈ told line s ↔
      ∃ ds, yield s.checkQuery line = .errors ds ∧ ds ≠ [] ∧ shown = s.diagnostics ++ ds := by
  rw [told_eq]
  rcases yield s.checkQuery line with _ | range' | _ | ⟨d, ds⟩ <;>
    simp [Finding.events]

/-- A line gives at most one event, which is about the document of the session. It is the status of
a stretch exactly if the line is an object that accepts this stretch, and diagnostics exactly if it
is an object that complains: then those shown before are shown again, with one for each entry behind
them. The diagnostics of the session are those shown, and nothing else of it changes. -/
theorem told_iff_object_says (s : Session) (line : List Char) :
    (told line s).length ≤ 1 ∧
    (∀ e ∈ told line s,
      (∃ range, e = .statusOk s.uri [range]) ∨ ∃ shown, e = .publish s.uri shown) ∧
    (∀ range, .statusOk s.uri [range] ∈ told line s ↔
      ∃ (fields : Fields) (r : SourceRange), Json.read line = .ok (.obj fields) ∧
        fields.Accepts s.checkQuery r ∧ range.IsOf r) ∧
    (∀ shown, .publish s.uri shown ∈ told line s ↔
      ∃ (fields : Fields) (entries : List Complaint) (ds : List Diagnostic),
        Json.read line = .ok (.obj fields) ∧ fields.Complains s.checkQuery entries ∧
        List.Forall₂ (fun c d => d.IsOf c) entries ds ∧ shown = s.diagnostics ++ ds) ∧
    (∀ shown, .publish s.uri shown ∈ told line s →
      ((dispatchLine line).run s).state = { s with diagnostics := shown }) ∧
    ((∀ shown, .publish s.uri shown ∉ told line s) → ((dispatchLine line).run s).state = s) := by
  refine ⟨?_, ?_, fun range => ?_, fun shown => ?_, fun shown hshown => ?_, fun hnone => ?_⟩
  · rw [told_eq]
    rcases yield s.checkQuery line with _ | range | _ | ⟨d, ds⟩ <;> simp [Finding.events]
  · rw [told_eq]
    rcases yield s.checkQuery line with _ | range | _ | ⟨d, ds⟩ <;> simp [Finding.events]
  · rw [statusOk_mem_told_iff, yield_eq_iff (f := .checked range) (by simp), finding_eq_checked_iff]
  · rw [publish_mem_told_iff]
    constructor
    · rintro ⟨ds, hyield, hne, hshown⟩
      rw [yield_eq_iff (f := .errors ds) (by simp)] at hyield
      obtain ⟨fields, entries, hread, hcomplains, hds⟩ := finding_eq_errors_iff.1 ⟨hyield, hne⟩
      exact ⟨fields, entries, ds, hread, hcomplains, hds, hshown⟩
    · rintro ⟨fields, entries, ds, hread, hcomplains, hds, hshown⟩
      obtain ⟨hfinding, hne⟩ := finding_eq_errors_iff.2 ⟨fields, entries, hread, hcomplains, hds⟩
      exact ⟨ds, (yield_eq_iff (f := .errors ds) (by simp)).2 hfinding, hne, hshown⟩
  · obtain ⟨ds, hyield, -, rfl⟩ := publish_mem_told_iff.1 hshown
    rw [state_dispatchLine, hyield]
    rfl
  · rw [state_dispatchLine]
    have hempty : (yield s.checkQuery line).diagnostics = [] := by
      rcases hyield : yield s.checkQuery line with _ | range | _ | ⟨d, ds⟩
      case errors.cons =>
        have hmem := publish_mem_told_iff.2 ⟨_, hyield, List.cons_ne_nil d ds, rfl⟩
        exact absurd hmem (hnone _)
      all_goals rfl
    rw [hempty, List.append_nil]

end Session

end ProverLink
