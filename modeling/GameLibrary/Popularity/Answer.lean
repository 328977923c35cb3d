import GameLibrary.Failure
import GameLibrary.Popularity.Ranking

/-!
# Answers of the popularity service

An answer is a JSON record with a status. Only the status `success` comes with rankings; any other
one is a refusal, which may give its reason.
-/

namespace GameLibrary.Answer

open Json (Tree)

/-- What an answer says. -/
structure Content where
  status : String
  data : Option (List RankedItem)
  error : Option String

/-- The rankings inside an answer. -/
def dataOfTree? (tree : Tree) : Option (List RankedItem) := do
  match ← tree.fields? ["rankings"] with
  | [some rankings] => rankings.list? RankedItem.ofTree?
  | _ => none

/-- The answer that a document denotes. -/
def ofTree? (tree : Tree) : Option Content := do
  match ← tree.fields? ["status", "data", "error"] with
  | [some status, data, error] =>
      return {
        status := ← status.text?
        data := ← Tree.fieldOr none (Tree.optional? dataOfTree?) data
        error := ← Tree.fieldOr none (Tree.optional? Tree.text?) error }
  | _ => none

/-- The rankings that the body of an answer gives. -/
def rankings (body : ByteArray) : Except Failure (List RankedItem) :=
  match (Tree.ofBytes? body).bind ofTree? with
  | none => .error (.unreadableAnswer "")
  | some content =>
      if content.status ≠ "success" then
        let reason := (content.error.map fun e => " (" ++ e ++ ")").getD ""
        .error (.query ("Popularity service returned status: " ++ content.status ++ reason))
      else
        match content.data with
        | none => .error (.unreadableAnswer "missing data")
        | some items =>
            match items.find? (!·.score.isFinite) with
            | some bad => .error (.unreadableAnswer ("non-finite score for " ++ bad.id))
            | none => .ok items

end GameLibrary.Answer
