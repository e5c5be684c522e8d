import ProverLink.Message.Basic

/-!
# Tags

The tag of a message decides its kind. It is chosen by the attributes `kind`, `level` and `status`,
which are fields of the object that arrives and attributes of the message made from it.
-/

namespace ProverLink

/-- The five tags. -/
inductive Tag where
  | protocolInfo
  | progress
  | failure
  | success
  | unhandled
deriving DecidableEq

namespace Tag

/-- The word for a tag. -/
def name : Tag → String
  | .protocolInfo => "protocol-info"
  | .progress => "progress"
  | .failure => "failure"
  | .success => "success"
  | .unhandled => "unhandled"

/-- Whether an attribute is a given word. -/
def hasWord (attribute? : Option Json) (word : String) : Bool :=
  match attribute? with
  | some (.str t) => t = Text.ofString word
  | _ => false

/-- The tag that attributes choose. -/
def choose (attribute? : String → Option Json) : Tag :=
  let kind := attribute? "kind"
  if hasWord kind "protocol-info" then .protocolInfo
  else if hasWord kind "message" && hasWord (attribute? "level") "progress" then .progress
  else if hasWord kind "response" && hasWord (attribute? "status") "failure" then .failure
  else if hasWord kind "response" && hasWord (attribute? "status") "success" then .success
  else .unhandled

/-- The tag of an object with the given fields. -/
def ofFields (fields : Fields) : Tag := choose fun name => fields.get? (Text.ofString name)

/-- The tag of any value; only an object can have another one than `unhandled`. -/
def ofJson : Json → Tag
  | .obj fields => ofFields fields
  | _ => .unhandled

end Tag

namespace Message

/-- The attribute of a message under a name: what its kind fixes, or else an undeclared field. -/
def attribute? (m : Message) (name : String) : Option Json :=
  let extra := m.extra.get? (Text.ofString name)
  let word (w : String) : Option Json := some (.str (Text.ofString w))
  match m.body with
  | .protocolInfo _ _ => if name = "kind" then word "protocol-info" else extra
  | .progress _ =>
    if name = "kind" then word "message" else if name = "level" then word "progress" else extra
  | .failure _ =>
    if name = "kind" then word "response" else if name = "status" then word "failure" else extra
  | .success _ =>
    if name = "kind" then word "response" else if name = "status" then word "success" else extra
  | .unhandled kind _ => if name = "kind" then some kind else extra

/-- The tag of a message, by its attributes. -/
def tag (m : Message) : Tag := Tag.choose m.attribute?

end Message

end ProverLink
