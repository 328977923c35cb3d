import GameLibrary.Http.Message
import GameLibrary.Json.Printer
import GameLibrary.Popularity.Answer
import GameLibrary.Popularity.Facet

/-!
# The popularity service over the network

The service is asked for the rankings of some ids under one facet by a request with the ids, and for
its health by a request without content. Whether it is healthy is known from the last request that
told: a request that does not get through tells that it is not, and one that is served that it is. A
request for rankings that is refused tells nothing.
-/

namespace GameLibrary

/-- The popularity service at an address, with what is known of its health. -/
structure Remote where
  baseUrl : String
  healthy : Bool := true
deriving DecidableEq, Repr

namespace Remote

/-- The service at an address, which may end in slashes. -/
def ofUrl (url : String) : Remote :=
  { baseUrl := String.ofList ((url.toList.reverse.dropWhile (· = '/')).reverse) }

/-- The question for the health of the service. -/
def healthRequest (remote : Remote) : Http.Request :=
  { method := .get, url := remote.baseUrl ++ "/healthz" }

/-- The question for rankings. -/
def rankingsRequest (remote : Remote) (facet : Facet) (ids : List String) : Http.Request where
  method := .post
  url := remote.baseUrl ++ "/v1/rankings/" ++ facet.name
  contentType := "application/json"
  body := (Json.object [("ids", .strings ids)]).compact

/-- What the answer to the question for its health tells. -/
def checked (remote : Remote) : Http.Reception → Except Failure Unit × Remote
  | .broken cause | .late cause => (.error (.connection cause), { remote with healthy := false })
  | .response response =>
      if response.isSuccess then (.ok (), { remote with healthy := true })
      else
        (.error (.query ("Health check failed: " ++ Http.statusText response.status)),
          { remote with healthy := false })

/-- What the answer to the question for rankings tells. -/
def ranked (remote : Remote) :
    Http.Reception → Except Failure (List RankedItem) × Remote
  | .broken cause | .late cause => (.error (.connection cause), { remote with healthy := false })
  | .response response =>
      if response.status = 429 then (.error (.rateLimited response.retryAfter), remote)
      else if !response.isSuccess then
        (.error (.query ("Query failed with status: " ++ Http.statusText response.status)), remote)
      else
        match response.body with
        | .error cause => (.error (.connection cause), remote)
        | .ok body => (Answer.rankings body, { remote with healthy := true })

end Remote

end GameLibrary
