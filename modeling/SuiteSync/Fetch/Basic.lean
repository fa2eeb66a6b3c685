import SuiteSync.Fetch.Address
import SuiteSync.Fetch.Host
import SuiteSync.Fetch.Status
import SuiteSync.Journal

set_option autoImplicit false

namespace SuiteSync

inductive FetchError where
  | network (url reason : String)
  | status (url status : String)
  | invalidBody (url reason : String)
deriving DecidableEq, Repr

namespace FetchError

def message : FetchError → String
  | .network url reason => "Network error downloading '" ++ url ++ "': " ++ reason
  | .status url text => "Failed to load " ++ url ++ ": " ++ text
  | .invalidBody url reason => "Invalid response from '" ++ url ++ "': " ++ reason

def isMismatch : FetchError → Bool
  | .status _ _ => true
  | _ => false

end FetchError

structure Link where
  host : Host
  requests : List String
  events : List Event

namespace Link

def note (link : Link) (event : Event) : Link := { link with events := link.events ++ [event] }

def noteAll (link : Link) (events : List Event) : Link := { link with events := link.events ++ events }

@[simp] theorem note_host (link : Link) (event : Event) : (link.note event).host = link.host := rfl

@[simp] theorem note_requests (link : Link) (event : Event) : (link.note event).requests = link.requests := rfl

@[simp] theorem note_events (link : Link) (event : Event) : (link.note event).events = link.events ++ [event] := rfl

@[simp] theorem note_all_host (link : Link) (events : List Event) : (link.noteAll events).host = link.host := rfl

end Link

inductive Attempt where
  | page (text : String)
  | failed (transient : Bool) (error : FetchError)
deriving DecidableEq, Repr

namespace Attempt

def ofReply (url address : String) : Reply → Attempt
  | .dropped => .failed true (.network url ("error sending request for url (" ++ address ++ ")"))
  | .answered status contentType body truncated =>
      if !Status.isSuccess status then .failed (Status.isTransient status) (.status url (Status.text status))
      else if truncated && !Status.isBodyless status then
        .failed true (.network url "error decoding response body")
      else .page (Reply.bodyText contentType (if Status.isBodyless status then ByteArray.empty else body))

def make (url : String) (link : Link) : Attempt × Link :=
  let link := link.note (.requested url)
  match Address.parse? url with
  | none => (.failed true (.network url "builder error"), link)
  | some address =>
      if !Address.isRequestScheme address.scheme then
        (.failed true (.network url ("builder error for url (" ++ address.text ++ ")")), link)
      else if !link.host.reachable then (ofReply url address.text .dropped, link)
      else
        let (reply, host) := link.host.answer address.sent
        (ofReply url address.text reply, { link with host, requests := link.requests ++ [address.sent] })

end Attempt

def userAgent : String := "testsync/0.1.0"

def usualAttempts : Nat := 3

def retryPause : Nat := 500

def attemptsFor (limit : Nat) : Nat := max limit 1

def fetchWithin (url : String) : Nat → Link → Except FetchError String × Link
  | extra, link =>
      match Attempt.make url link, extra with
      | (.page text, link), _ => (.ok text, link)
      | (.failed true error, link), extra + 1 =>
          fetchWithin url extra (link.note (.retrying error.message retryPause))
      | (.failed _ error, link), _ => (.error error, link)

def fetchText (url : String) (limit : Nat) (link : Link) : Except FetchError String × Link :=
  fetchWithin url (attemptsFor limit - 1) link

end SuiteSync
