import ProverLink.Proofs.Grammar

/-!
# Tags of objects and of messages

The tag of a message is chosen by the same rule as the tag of the object that it was made from, but
out of its attributes. Some of these are fixed by its kind and the others are fields that its kind
does not declare; either way they are what the object held.
-/

namespace ProverLink

/-- A field that is not declared is kept. -/
lemma Fields.Leaves.get? {fields extra : Fields} {names : List String}
    (h : fields.Leaves names extra) {name : String}
    (hname : Text.ofString name ∉ names.map Text.ofString) :
    extra.get? (Text.ofString name) = fields.get? (Text.ofString name) := by
  rw [Fields.get?, Fields.get?, h.eq, List.find?_filter]
  congr 2
  funext f
  by_cases hf : f.1 = Text.ofString name
  · simp [hf, hname]
  · simp [hf]

namespace Message

/-- What a message has under the three names that choose its tag is what the object had. -/
structure Mirrors (fields : Fields) (m : Message) : Prop where
  kind : m.attribute? "kind" = some ((fields.get? (Text.ofString "kind")).getD .null)
  level : m.attribute? "level" = fields.get? (Text.ofString "level")
  status : m.attribute? "status" = fields.get? (Text.ofString "status")

lemma kind_of_hasWord {fields : Fields} {word : String} (h : fields.HasWord "kind" word) :
    some (.str (Text.ofString word)) = some ((fields.get? (Text.ofString "kind")).getD .null) := by
  rw [h]
  rfl

lemma idName_ne (fields : Fields) :
    Text.ofString "level" ≠ Text.ofString (Checked.idName fields) ∧
      Text.ofString "status" ≠ Text.ofString (Checked.idName fields) := by
  rw [Checked.idName]
  split <;> decide

/-- A level is declared for progress alone. -/
lemma level_notMem (fields : Fields) {tag : Tag} (h : tag ≠ .progress) :
    Text.ofString "level" ∉ (Checked.idName fields :: bodyNames tag).map Text.ofString := by
  have hbody : Text.ofString "level" ∉ (bodyNames tag).map Text.ofString := by
    cases tag with
    | progress => exact absurd rfl h
    | _ => decide
  exact fun hmem => (List.mem_cons.1 hmem).elim (idName_ne fields).1 hbody

/-- A status is declared for answers alone. -/
lemma status_notMem (fields : Fields) {tag : Tag} (h : tag ≠ .failure) (h' : tag ≠ .success) :
    Text.ofString "status" ∉ (Checked.idName fields :: bodyNames tag).map Text.ofString := by
  have hbody : Text.ofString "status" ∉ (bodyNames tag).map Text.ofString := by
    cases tag with
    | failure => exact absurd rfl h
    | success => exact absurd rfl h'
    | _ => decide
  exact fun hmem => (List.mem_cons.1 hmem).elim (idName_ne fields).2 hbody

lemma kind_of_bodyOf {fields : Fields} {kind : Json} {reason : Option Text}
    (h : bodyOf fields .unhandled = .ok (.unhandled kind reason)) :
    kind = (fields.get? (Text.ofString "kind")).getD .null := by
  obtain ⟨kind', reason', hkind, -, heq⟩ := Checked.map2_eq_ok_iff.1 h
  cases heq
  rw [Checked.optional] at hkind
  cases hget : fields.get? (Text.ofString "kind") with
  | none =>
    rw [hget] at hkind
    cases hkind
    rfl
  | some v =>
    rw [hget] at hkind
    cases hkind
    rfl

lemma mirrors_of_ofFields {fields : Fields} {m : Message} (h : ofFields fields = .ok m) :
    m.Mirrors fields := by
  obtain ⟨-, hbody, hextra⟩ := ofFields_eq_ok.1 h
  have htag := tag_of_bodyOf hbody
  have hselected := @Tag.selected_ofFields fields
  obtain ⟨id, body, extra⟩ := m
  dsimp only at hbody hextra htag
  rw [← htag] at hbody hextra hselected
  have hlevel : body.tag ≠ .progress →
      extra.get? (Text.ofString "level") = fields.get? (Text.ofString "level") := fun hne =>
    hextra.get? (level_notMem fields hne)
  have hstatus : body.tag ≠ .failure → body.tag ≠ .success →
      extra.get? (Text.ofString "status") = fields.get? (Text.ofString "status") := fun hne hne' =>
    hextra.get? (status_notMem fields hne hne')
  -- one case for each kind: what the kind fixes was there, and the rest was kept
  cases body with
  | protocolInfo version features =>
    cases hselected (by simp [Body.tag]) with
    | protocolInfo hkind =>
      exact ⟨kind_of_hasWord hkind, hlevel (by simp [Body.tag]),
        hstatus (by simp [Body.tag]) (by simp [Body.tag])⟩
  | progress p =>
    cases hselected (by simp [Body.tag]) with
    | progress hkind hword =>
      exact ⟨kind_of_hasWord hkind, hword.symm, hstatus (by simp [Body.tag]) (by simp [Body.tag])⟩
  | failure answer =>
    cases hselected (by simp [Body.tag]) with
    | failure hkind hword =>
      exact ⟨kind_of_hasWord hkind, hlevel (by simp [Body.tag]), hword.symm⟩
  | success response =>
    cases hselected (by simp [Body.tag]) with
    | success hkind hword =>
      exact ⟨kind_of_hasWord hkind, hlevel (by simp [Body.tag]), hword.symm⟩
  | unhandled kind reason =>
    exact ⟨congrArg some (kind_of_bodyOf hbody), hlevel (by simp [Body.tag]),
      hstatus (by simp [Body.tag]) (by simp [Body.tag])⟩

/-- A kind that is missing chooses what null would choose. -/
lemma hasWord_getD (v? : Option Json) (word : String) :
    Tag.hasWord (some (v?.getD .null)) word = Tag.hasWord v? word := by
  cases v? with
  | none => rfl
  | some v => rfl

lemma Mirrors.tag_eq {fields : Fields} {m : Message} (h : m.Mirrors fields) :
    m.tag = Tag.ofFields fields := by
  simp only [tag, Tag.ofFields, Tag.choose, h.kind, h.level, h.status, hasWord_getD]

/-- For every value that is accepted as a message, the attributes of the message choose the tag that
the value itself has, and it is the tag of the message's kind. The attributes are what the object
held under their names, whether the kind declares them or not. -/
theorem attributes_choose_the_tag {v : Json} {m : Message} (h : ofJson v = .ok m) :
    m.tag = Tag.ofJson v ∧ m.body.tag = m.tag ∧
      ∃ fields : Fields, v = .obj fields ∧
        m.attribute? "kind" = some ((fields.get? (Text.ofString "kind")).getD .null) ∧
        m.attribute? "level" = fields.get? (Text.ofString "level") ∧
        m.attribute? "status" = fields.get? (Text.ofString "status") := by
  cases v with
  | obj fields =>
    have hmirrors := mirrors_of_ofFields h
    have hbody := tag_of_bodyOf (ofFields_eq_ok.1 h).2.1
    refine ⟨hmirrors.tag_eq, hbody.trans hmirrors.tag_eq.symm, fields, rfl, ?_⟩
    exact ⟨hmirrors.kind, hmirrors.level, hmirrors.status⟩
  | null => cases h
  | bool => cases h
  | int => cases h
  | float => cases h
  | str => cases h
  | arr => cases h

/-- An answer with a status that no kind has, and a level that is no text. -/
def oddAnswer : Json :=
  .obj [(Text.ofString "kind", .str (Text.ofString "response")),
    (Text.ofString "status", .str (Text.ofString "pending")),
    (Text.ofString "level", .arr [.bool true]), (Text.ofString "query-id", .int 3)]

/-- The message that it gives: its status and its level are kept aside. -/
def oddMessage : Message where
  queryId := some (.number 3)
  body := .unhandled (.str (Text.ofString "response")) none
  extra := [(Text.ofString "status", .str (Text.ofString "pending")),
    (Text.ofString "level", .arr [.bool true])]

lemma ofJson_oddAnswer : ofJson oddAnswer = .ok oddMessage := by rfl

/-- Attributes that are not declared choose the tag as well. -/
theorem attributes_of_oddAnswer :
    ofJson oddAnswer = .ok oddMessage ∧ oddMessage.tag = Tag.ofJson oddAnswer ∧
      oddMessage.body.tag = oddMessage.tag ∧
      oddMessage.attribute? "level" = some (.arr [.bool true]) := by
  obtain ⟨htag, hbody, fields, hfields, -, hlevel, -⟩ :=
    attributes_choose_the_tag ofJson_oddAnswer
  cases hfields
  exact ⟨ofJson_oddAnswer, htag, hbody, hlevel⟩

end Message

end ProverLink
