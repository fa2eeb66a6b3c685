import SuiteSync.Config.Basic
import SuiteSync.Fetch.Basic
import SuiteSync.Version.Listing
import SuiteSync.Version.Tag

set_option autoImplicit false

namespace SuiteSync

inductive ResolveError where
  | tags (error : FetchError)
  | noTagSource
  | noVersionTags (url : String)
deriving DecidableEq, Repr

def ResolveError.message : ResolveError → String
  | .tags error => "Failed to list upstream tags: " ++ error.message
  | .noTagSource => "No upstream version pinned and no tag listing configured"
  | .noVersionTags url => "No semver tags found at '" ++ url ++ "'"

structure Resolved where
  version : String
  baseUrl : String
deriving DecidableEq, Repr

namespace Resolved

def pinned (config : Config) (version : String) : Resolved := ⟨version, config.origin.rawUrl.render version⟩

def fileUrl (resolved : Resolved) (config : Config) (file : String) : String :=
  resolved.baseUrl ++ config.origin.testDir ++ file

end Resolved

def listingReason : String := "<json error>"

def fetchTags (url : String) (attempts : Nat) (link : Link) : Except FetchError (List String) × Link :=
  match fetchText url attempts link with
  | (.error e, link) => (.error e, link)
  | (.ok text, link) =>
      match Listing.names? text with
      | none => (.error (.invalidBody url listingReason), link)
      | some names => (.ok names, link)

def resolveLatest (config : Config) (attempts : Nat) (link : Link) : Except ResolveError Resolved × Link :=
  match config.origin.tagsUrl with
  | none => (.error .noTagSource, link)
  | some url =>
      match fetchTags url attempts (link.note (.listingTags url)) with
      | (.error e, link) => (.error (.tags e), link)
      | (.ok names, link) =>
          match latestTag? names with
          | none => (.error (.noVersionTags url), link)
          | some tag => (.ok (Resolved.pinned config tag), link.note (.latestTag tag))

def resolve (config : Config) (attempts : Nat) (asked : Option String) (link : Link) :
    Except ResolveError Resolved × Link :=
  match asked.or config.origin.version with
  | some version => (.ok (Resolved.pinned config version), link.note (.versionPinned version))
  | none => resolveLatest config attempts link

end SuiteSync
