import CatalogQuery.Command.Run
import CatalogQuery.Text.Utf8

/-!
# The relay

The command opens no connection itself.  A relay reads each request as one line
of JSON, sends it, and answers with a line that holds the status and the body
of the response, or with one that names what went wrong instead.
-/

namespace CatalogQuery
namespace Relay

/-- The line that a relay reads for a request to the server at an address. -/
def requestLine (server : String) (request : Request) : String :=
  let target := String.ofList request.url.target
  let fields : Fields Value :=
    [("method", .text request.method), ("server", .text server), ("target", .text target),
      ("headers", .object (request.headers.map fun (name, text) => (name, .text text)))]
  Json.compact <| .object <|
    match request.body with
    | some body => Fields.set "body" body fields
    | none => fields

/-- What went wrong, by the words of a relay. -/
def failureNamed (word : String) : Failure :=
  match word with
  | "timeout" => .network (.timeout .read)
  | "cancelled" => .cancelled
  | _ => .network (.broken .connect)

/-- What a line of the relay says of a request; a line that cannot be read
means that the server was not reached. -/
def arrivalOfLine (line : String) : Arrival :=
  match Json.read line with
  | .ok (.object fields) =>
      match Fields.get? "status" fields, Fields.get? "body" fields with
      | some (.int status), some (.text body) =>
          .answered ⟨status.toNat, Text.Utf8.encode (body.chars?.getD [])⟩
      | _, _ =>
          match Fields.get? "failure" fields with
          | some (.text word) => .failed (failureNamed (word.string?.getD ""))
          | _ => .failed (failureNamed "")
  | _ => .failed (failureNamed "")

/-- The address that the requests of a run go to: scheme and authority of the
address in the settings. -/
def serverOf (settings : Settings) : String :=
  match settings.base with
  | .ok url => String.ofList url.server
  | .error _ => ""

/-- The line for a log record. -/
def logLine (record : LogRecord) : String :=
  record.logger ++ " - " ++ record.level.name ++ " - " ++ Text.shown record.message

/-- The code that a finished run ends with. -/
def exitCode : Failure → UInt32
  | .exit code => code.toUInt32
  | _ => 1

/-- What is said of a run that did not end by itself. -/
def farewell? : Failure → Option String
  | .exit _ => none
  | failure => some (failure.message?.getD "The query failed")

end Relay
end CatalogQuery
