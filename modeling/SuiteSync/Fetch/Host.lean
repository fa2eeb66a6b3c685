import SuiteSync.Text.Blank
import SuiteSync.Text.Decoding
import SuiteSync.Text.Search

set_option autoImplicit false

namespace SuiteSync

inductive Reply where
  | dropped
  | answered (status : Nat) (contentType : Option String) (body : ByteArray) (truncated : Bool)

-- The replies that each address still gives. A request takes the next one, and the last one stays.
structure Host where
  reachable : Bool
  replies : List (String × List Reply)

namespace Host

def unknown : Reply := .answered 404 none ByteArray.empty false

def empty (reachable : Bool) : Host := ⟨reachable, []⟩

def useUp : List Reply → List Reply
  | _ :: second :: later => second :: later
  | replies => replies

def answer (host : Host) (address : String) : Reply × Host :=
  match host.replies.lookup address with
  | some (reply :: later) =>
      (reply, { host with replies := host.replies.map fun entry =>
        if entry.1 = address then (entry.1, useUp (reply :: later)) else entry })
  | _ => (unknown, host)

def serve (host : Host) (address : String) (replies : List Reply) : Host :=
  { host with replies := (address, replies) :: host.replies.filter fun entry => entry.1 != address }

end Host

namespace Reply

def parameters : List Char → List (List Char)
  | [] => [[]]
  | ';' :: rest => [] :: parameters rest
  | c :: rest =>
      match parameters rest with
      | [] => [[c]]
      | piece :: later => (c :: piece) :: later

-- The charset that a content type declares. All but the two that are modelled count as UTF-8, whether they are
-- known elsewhere or not.
def charset (contentType : Option String) : Text.Charset :=
  let pieces := (parameters ((contentType.getD "").toList.map Char.toLower)).drop 1
  let labels := pieces.filterMap fun piece => Text.strip "charset=".toList (Text.trim piece)
  match labels with
  | label :: _ =>
      if label.filter (· != '\x22') == "iso-8859-1".toList then .western else .utf8
  | [] => .utf8

def bodyText (contentType : Option String) (body : ByteArray) : String :=
  String.ofList (Text.decode (charset contentType) body.data.toList)

end Reply

end SuiteSync
