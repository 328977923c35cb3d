import GameLibrary.Popularity.Remote
import Mathlib.Data.List.Induction

/-!
# What is known of the health of the popularity service

The service counts as healthy until a call tells otherwise. A call that is served tells that it is,
and one that gets no response, or asks for the health and is refused, that it is not. A call for
rankings that gets a response without being served tells nothing, and the service is known as it was
before. So the health is that of the last call that told, and it tells whether the last call was
served unless that one tells nothing of a service that counts as healthy: `Remote.run_health`.
-/

namespace GameLibrary.Remote

/-- A call to the service, with what becomes of it. -/
inductive Call where
  /-- The question for its health. -/
  | check (reception : Http.Reception)
  /-- The question for rankings. -/
  | rankings (reception : Http.Reception)

namespace Call

/-- Whether the call is served: the service says so, and sends the whole of the rankings if it is
asked for them. -/
def isServed : Call → Bool
  | check (.response response) => response.isSuccess
  | rankings (.response response) => response.isSuccess && response.body.isOk
  | check _ | rankings _ => false

/-- Whether the call gets a response without learning anything of the health. -/
def isSilent : Call → Bool
  | rankings (.response response) => !(response.isSuccess && response.body.isOk)
  | check _ | rankings _ => false

/-- A call that tells nothing is not served. -/
theorem is_served_of_silent {call : Call} (h : call.isSilent = true) : call.isServed = false := by
  match call, h with
  | rankings (.response response), h => exact Bool.not_eq_eq_eq_not.1 h

end Call

/-- The service as it is known after a call. -/
def perform (remote : Remote) : Call → Remote
  | .check reception => (remote.checked reception).2
  | .rankings reception => (remote.ranked reception).2

/-- The service as it is known after a list of calls. -/
def run (remote : Remote) (calls : List Call) : Remote := calls.foldl perform remote

variable (remote : Remote)

theorem run_concat (calls : List Call) (call : Call) :
    remote.run (calls ++ [call]) = (remote.run calls).perform call :=
  List.foldl_append

/-- A response to the question for rankings tells that the service is healthy, if it is a success
with a whole body, and nothing otherwise. -/
theorem ranked_response (response : Http.Response) : (remote.ranked (.response response)).2 =
    if response.isSuccess && response.body.isOk then { remote with healthy := true }
    else remote := by
  unfold ranked
  dsimp only
  split
  case isTrue hlimited =>
    -- The status of a limited rate is no success.
    have hrefused : response.isSuccess = false := by simp [Http.Response.isSuccess, hlimited]
    rw [hrefused]
    rfl
  case isFalse =>
    split
    case isTrue hrefused =>
      rw [Bool.not_eq_eq_eq_not.1 hrefused]
      rfl
    case isFalse hsuccess =>
      rw [Bool.not_eq_true, Bool.not_eq_eq_eq_not] at hsuccess
      rw [hsuccess]
      cases response.body <;> rfl

/-- A call tells whether it is served, or nothing. -/
theorem healthy_perform (call : Call) : (remote.perform call).healthy =
    if call.isSilent then remote.healthy else call.isServed := by
  cases call with
  | check reception =>
      cases reception with
      | response response =>
          simp only [perform, checked, Call.isSilent, Call.isServed]
          split <;> simp_all
      | broken | late => rfl
  | rankings reception =>
      cases reception with
      | response response =>
          simp only [perform, ranked_response, Call.isSilent, Call.isServed]
          split <;> simp_all
      | broken | late => rfl

/-- The health after some calls is what the last call that tells anything tells. -/
theorem healthy_run (calls : List Call) : (remote.run calls).healthy =
    ((calls.filter (!·.isSilent)).getLast?.map Call.isServed).getD remote.healthy := by
  induction calls using List.reverseRecOn with
  | nil => rfl
  | append_singleton before last ih =>
      rw [run_concat, healthy_perform, List.filter_append]
      cases hsilent : last.isSilent with
      | true => simpa [hsilent] using ih
      | false => simp [hsilent]

/-- After any calls to a service at an address, its health is what the last call that tells anything
tells, and good if there is none. So it tells whether the last call was served, exactly if that call
tells or the service was known as not healthy before. -/
theorem run_health (url : String) (calls : List Call) :
    ((ofUrl url).run calls).healthy =
      (calls.filter (!·.isSilent)).getLast?.all Call.isServed ∧
    (((ofUrl url).run calls).healthy = calls.getLast?.all Call.isServed ↔
      ∀ before last, calls = before ++ [last] → last.isSilent = true →
        ((ofUrl url).run before).healthy = false) := by
  constructor
  · rw [healthy_run]
    cases (calls.filter (!·.isSilent)).getLast? <;> rfl
  · cases calls using List.reverseRecOn with
    | nil => exact ⟨fun _ before last hcalls => by simp at hcalls, fun _ => rfl⟩
    | append_singleton before last =>
        rw [run_concat, healthy_perform, List.getLast?_concat, Option.all_some]
        cases hsilent : last.isSilent with
        | true =>
            rw [if_pos rfl, Call.is_served_of_silent hsilent]
            constructor
            · intro hhealth before' last' hcalls _
              obtain ⟨rfl, -⟩ := List.append_inj' hcalls rfl
              exact hhealth
            · exact fun hbefore => hbefore before last rfl hsilent
        | false =>
            refine iff_of_true rfl fun before' last' hcalls hsilent' => ?_
            obtain ⟨-, hlast⟩ := List.append_inj' hcalls rfl
            rw [← List.singleton_inj.1 hlast, hsilent] at hsilent'
            cases hsilent'

/-- A service that refuses to give rankings still counts as healthy. -/
example : ((ofUrl "http://localhost:8080").run [.check (.response ⟨200, [], .ok .empty⟩),
    .rankings (.response ⟨500, [], .ok .empty⟩)]).healthy = true := by decide

end GameLibrary.Remote
