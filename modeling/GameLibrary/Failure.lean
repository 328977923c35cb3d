import GameLibrary.Text.Quoted
import GameLibrary.Time.Duration

/-!
# What can go wrong

One constructor for each cause. `Failure.message` is the wording, and `Failure.isOrigin` tells the
failures of the popularity service from those of the library itself.
-/

namespace GameLibrary

/-- The cause of a failure. -/
inductive Failure where
  /-- A filter was registered under an id that is taken. -/
  | duplicateFilter (filter : String)
  /-- A filter could not decide about an item. -/
  | undecided (filter item reason : String)
  /-- The popularity service could not be reached. -/
  | connection (cause : String)
  /-- The popularity service refused a query. -/
  | query (text : String)
  /-- The answer of the popularity service could not be read. -/
  | unreadableAnswer (text : String)
  /-- The popularity service asked for fewer requests. -/
  | rateLimited (retryAfter : Option Duration)
  /-- One call to the popularity service took too long. -/
  | callTimeout (facet : String) (timeout : Duration)
  /-- Every facet of a fetch failed. -/
  | originUnavailable (attempted : Nat)
  /-- A whole computation took too long. -/
  | resolveTimeout (key : String) (timeout : Duration)
  /-- A computation that another caller led failed with this message. -/
  | coalesced (message : String)
  /-- A text is no key. -/
  | invalidKey (text : String)
  /-- The durable tier refused an operation. -/
  | tierUnavailable (reason : String)
  /-- The file system refused an operation of the durable tier. The cause names the place. -/
  | storageFault (action cause : String)
  /-- A document could not be read, or a value not be written. The cause names what was expected and
  not found, without the place in the text. -/
  | serialization (cause : String)
  /-- The file system refused an operation. -/
  | io (text : String)
  /-- The configuration is wrong. -/
  | configuration (text : String)
  /-- An assumption of the library does not hold. -/
  | internal (text : String)
deriving DecidableEq, Inhabited

namespace Failure

/-- The wording of a failure. -/
def message : Failure → String
  | duplicateFilter filter => "Duplicate filter id: " ++ filter
  | undecided filter item reason =>
      "Predicate " ++ filter ++ " failed on item " ++ item ++ ": " ++ reason
  | connection cause => "Popularity service connection error: " ++ cause
  | query text => "Popularity service query error: " ++ text
  | unreadableAnswer text => "Failed to parse popularity service response: " ++ text
  | rateLimited retryAfter =>
      "Rate limited by popularity service (retry after " ++ Duration.optionText retryAfter ++ ")"
  | callTimeout facet timeout =>
      "Origin call for " ++ facet ++ " timed out after " ++ timeout.text
  | originUnavailable attempted =>
      "Popularity service unavailable: all " ++ toString attempted ++ " sub-queries failed"
  | resolveTimeout key timeout => "Resolution of key " ++ key ++ " timed out after " ++ timeout.text
  | coalesced message => "Shared fetch failed: " ++ message
  | invalidKey text => "Invalid working-set key: " ++ Text.quoted text
  | tierUnavailable reason => "Tier2 store unavailable: " ++ reason
  | storageFault action cause => "Tier2 store unavailable: " ++ action ++ " " ++ cause
  | serialization cause => "Serialization error: " ++ cause
  | io text => "I/O error: " ++ text
  | configuration text => "Configuration error: " ++ text
  | internal text => "Internal error: " ++ text

/-- Whether the popularity service is the cause. -/
def isOrigin : Failure → Bool
  | connection _ | query _ | unreadableAnswer _ | rateLimited _ | callTimeout _ _
  | originUnavailable _ => true
  | _ => false

end Failure

end GameLibrary
