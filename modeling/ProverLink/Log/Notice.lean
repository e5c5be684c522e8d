import ProverLink.Editor.Event
import ProverLink.Json.Reader
import ProverLink.Log.Level
import ProverLink.Toml.Reader

/-!
# Notices

What the program writes to its log. Each kind of notice has its level and its wording here.
-/

namespace ProverLink

/-- The two callbacks of a session. -/
inductive Callback where
  | output
  | exit
deriving DecidableEq

/-- How a callback is named in the log. -/
def Callback.name : Callback → String
  | .output => "<bound method Bridge._handle_output>"
  | .exit => "<bound method Bridge._handle_exit>"

/-- A place in a line that is not JSON, with what is wrong there. -/
structure Malformed where
  problem : Json.Problem
  line : Nat
  column : Nat
  offset : Nat
deriving DecidableEq

/-- The wording for a line that is not JSON. -/
def Malformed.message (m : Malformed) : String :=
  m.problem.message ++ ": line " ++ Decimal.render m.line ++ " column " ++
    Decimal.render m.column ++ " (char " ++ Decimal.render m.offset ++ ")"

/-- An entry of the log. -/
inductive Notice where
  | configUnreadable (path : Path) (e : OsError)
  | configInvalid (path : Path) (problem : Toml.Problem) (place : Toml.Place)
  | unparsable (uri : String) (reason : Malformed) (line : List Char)
  | protocolVersion (uri : String) (version : Option Int) (features : List Text)
  | superseded (kind : String) (number : Int)
  | rejected (uri : String) (reason : Text)
  | unhandled (uri : String) (kind : Json) (reason : Option Text)
  | statusOk (uri : String) (range : Range)
  | statusClear (uri : String)
  | transportError (uri : String) (message : String)
  | noSession (uri : String) (query : Text)
  | sent (uri : String) (query : Text) (id : Nat)
  | starting (command : List String) (directory : String)
  | closeFailed (uri : String) (e : OsError)
  | terminating (uri : String)
  | killing (uri : String)
  | survived (uri : String)
  | readingFailed (uri : String)
  | outputClosed (uri : String) (e : PipeError)
  | errorLine (file : String) (line : List Char)
  | errorsClosed (uri : String) (e : PipeError)
  | opening (uri directory file : String)
  | changeIgnored (uri : String)
  | closing (uri : String)
  | calledInline (callback : Callback)
  | executable (name : String)
  | listening (host : String) (port : Int)

namespace Notice

/-- The level of a notice. -/
def level : Notice → Level
  | .configUnreadable .. => .warning
  | .configInvalid .. => .warning
  | .unparsable .. => .warning
  | .protocolVersion .. => .info
  | .superseded .. => .debug
  | .rejected .. => .warning
  | .unhandled .. => .info
  | .statusOk .. => .debug
  | .statusClear .. => .debug
  | .transportError .. => .error
  | .noSession .. => .debug
  | .sent .. => .debug
  | .starting .. => .info
  | .closeFailed .. => .debug
  | .terminating .. => .info
  | .killing .. => .warning
  | .survived .. => .error
  | .readingFailed .. => .error
  | .outputClosed .. => .debug
  | .errorLine .. => .info
  | .errorsClosed .. => .debug
  | .opening .. => .info
  | .changeIgnored .. => .debug
  | .closing .. => .info
  | .calledInline .. => .warning
  | .executable .. => .info
  | .listening .. => .info

/-- The part of the program that a notice comes from, as the log names it. -/
def source : Notice → String
  | .configUnreadable .. => "fstar_bridge.config"
  | .configInvalid .. => "fstar_bridge.config"
  | .unparsable .. => "fstar_bridge.dispatch"
  | .protocolVersion .. => "fstar_bridge.translate"
  | .superseded .. => "fstar_bridge.dispatch"
  | .rejected .. => "fstar_bridge.dispatch"
  | .unhandled .. => "fstar_bridge.dispatch"
  | .statusOk .. => "fstar_bridge.translate"
  | .statusClear .. => "fstar_bridge.translate"
  | .transportError .. => "fstar_bridge.translate"
  | .noSession .. => "fstar_bridge.queries"
  | .sent .. => "fstar_bridge.queries"
  | .starting .. => "fstar_bridge.session"
  | .closeFailed .. => "fstar_bridge.session"
  | .terminating .. => "fstar_bridge.session"
  | .killing .. => "fstar_bridge.session"
  | .survived .. => "fstar_bridge.session"
  | .readingFailed .. => "fstar_bridge.session"
  | .outputClosed .. => "fstar_bridge.session"
  | .errorLine .. => "fstar_bridge.session"
  | .errorsClosed .. => "fstar_bridge.session"
  | .opening .. => "fstar_bridge.bridge"
  | .changeIgnored .. => "fstar_bridge.bridge"
  | .closing .. => "fstar_bridge.bridge"
  | .calledInline .. => "fstar_bridge.server"
  | .executable .. => "fstar_bridge.server"
  | .listening .. => "fstar_bridge.cli"

/-- Features with commas between them; an empty list is shown as a word. -/
def featuresText (features : List Text) : Text :=
  match (features.intersperse (Text.ofString ", ")).flatten with
  | [] => Text.ofString "none"
  | t => t

/-- The wording of a notice. -/
def message : Notice → Text
  | .configUnreadable path e =>
    Text.ofString ("Could not read " ++ path.toString ++ ": " ++ e.message)
  | .configInvalid path problem place =>
    Text.ofString ("Ignoring invalid config " ++ path.toString ++ ": " ++ problem.message ++
      " (at " ++ place.message ++ ")")
  | .unparsable uri reason line =>
    Text.ofString ("Dropping unparsable F* output for " ++ uri ++ ": " ++ reason.message ++ ": " ++
      Quoted.quote (Text.ofChars line))
  | .protocolVersion uri version features =>
    Text.ofString ("F* IDE protocol version " ++ (version.map Decimal.render).getD "None" ++
      " for " ++ uri ++ " (features: ") ++ featuresText features ++ Text.ofString ")"
  | .superseded kind number =>
    Text.ofString ("Dropping " ++ kind ++ " for superseded query " ++ Decimal.render number)
  | .rejected uri reason =>
    Text.ofString ("F* rejected a query for " ++ uri ++ ": ") ++ reason
  | .unhandled uri kind reason =>
    Text.ofString ("Unhandled F* message for " ++ uri ++ ": kind=" ++ kind.display ++ " ") ++
      reason.getD []
  | .statusOk uri range => Text.ofString ("statusOk " ++ uri ++ " " ++ range.text)
  | .statusClear uri => Text.ofString ("statusClear " ++ uri)
  | .transportError uri message => Text.ofString (uri ++ ": " ++ message)
  | .noSession uri query =>
    Text.ofString ("No session for " ++ uri ++ "; dropping ") ++ query ++ Text.ofString " query"
  | .sent uri query id =>
    Text.ofString "Sent " ++ query ++
      Text.ofString (" query " ++ Decimal.render id ++ " to " ++ uri)
  | .starting command directory =>
    Text.ofString ("Starting " ++ " ".intercalate command ++ " in " ++ directory)
  | .closeFailed uri e => Text.ofString ("Closing stdin for " ++ uri ++ " failed: " ++ e.message)
  | .terminating uri => Text.ofString ("Terminating F* process for " ++ uri)
  | .killing uri => Text.ofString ("F* process for " ++ uri ++ " ignored terminate; killing")
  | .survived uri => Text.ofString ("F* process for " ++ uri ++ " survived kill")
  | .readingFailed uri => Text.ofString ("Reading F* output for " ++ uri ++ " failed")
  | .outputClosed uri e => Text.ofString ("stdout of " ++ uri ++ " closed: " ++ e.message)
  | .errorLine file line => Text.ofString ("[" ++ file ++ "] ") ++ Text.ofChars line
  | .errorsClosed uri e => Text.ofString ("stderr of " ++ uri ++ " closed: " ++ e.message)
  | .opening uri directory file =>
    Text.ofString ("Opening " ++ uri ++ " (dir=" ++ directory ++ ", file=" ++ file ++ ")")
  | .changeIgnored uri => Text.ofString ("Ignoring change for " ++ uri ++ ": no F* session")
  | .closing uri => Text.ofString ("Closing " ++ uri)
  | .calledInline callback =>
    Text.ofString ("No running event loop bound; calling " ++ callback.name ++ " inline")
  | .executable name => Text.ofString ("Using F* executable " ++ name)
  | .listening host port => Text.ofString ("Listening on " ++ host ++ ":" ++ Decimal.render port)

/-- A notice as a line of the log, without the time. -/
def line (n : Notice) : Text :=
  Text.ofString (n.level.name ++ " " ++ n.source ++ ": ") ++ n.message

end Notice

end ProverLink
