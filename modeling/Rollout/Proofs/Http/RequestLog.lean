import Rollout.Proofs.Http.Handling
import Rollout.Proofs.Http.ReturnCode
import Rollout.Proofs.Runner.Logging

/-!
# The log of a request

What a request logs, whatever it asks for: one event of its own at the end,
which tells its method, its target and the status it was answered with, and
before that nothing unless it deploys. A deploy is announced, logs its commands,
and is concluded by an event that agrees with both the log and the response.
-/

namespace Rollout.Http

-- ---------------------------------------------------------------------------
-- The target that is shown
-- ---------------------------------------------------------------------------

namespace Uri

variable {uri : Uri} {target : String} {cs : List Char}

theorem text_of_behind (h : behind none none cs = .ok uri) (rooted : cs.head? = some '/') :
    uri.text.toList = cs.takeWhile (· != '#') := by
  simp only [behind] at h
  have hshown : (cs.takeWhile (· != '#')).head? = some '/' := by simp [rooted, List.head?_takeWhile]
  generalize cs.takeWhile (· != '#') = shown at *
  have hpath : (shown.takeWhile (· != '?')).head? = some '/' := by
    simp [hshown, List.head?_takeWhile]
  have hquery := List.head?_dropWhile_not (· != '?') shown
  have hsplit : shown.takeWhile (· != '?') ++ shown.dropWhile (· != '?') = shown :=
    List.takeWhile_append_dropWhile
  generalize shown.takeWhile (· != '?') = path at *
  generalize shown.dropWhile (· != '?') = rest at *
  subst hsplit
  have hnonempty : path.isEmpty = false := by
    cases path with
    | nil => cases hpath
    | cons => rfl
  simp only [hnonempty, List.drop_left, List.length_append] at h
  split at h
  case isFalse => cases h
  cases h
  cases rest with
  | nil => simp [text]
  | cons c query =>
    -- What ends a path is the mark of a query.
    obtain rfl : c = '?' := by simpa using hquery
    simp [text]

/-- A target that is a path, with a query or without, is shown as it was sent up to its
fragment. -/
theorem text_of_parse (h : parse target = .ok uri) (rooted : target.toList.head? = some '/') :
    uri.text.toList = target.toList.takeWhile (· != '#') := by
  obtain ⟨rest, hrest⟩ : ∃ rest, target.toList = '/' :: rest := by
    cases htarget : target.toList with
    | nil => simp [htarget] at rooted
    | cons c rest =>
      obtain rfl : c = '/' := by simpa [htarget] using rooted
      exact ⟨rest, rfl⟩
  rw [hrest] at rooted ⊢
  unfold parse at h
  rw [hrest] at h
  refine text_of_behind ?_ rooted
  by_cases hsize : sizeLimit < target.utf8ByteSize
  · simp [hsize, bind, Except.bind, throw, throwThe, MonadExceptOf.throw] at h
  · simpa [hsize, bind, Except.bind, pure, Except.pure] using h

end Uri

-- ---------------------------------------------------------------------------
-- Events of requests and of deploys
-- ---------------------------------------------------------------------------

/-- The messages of all events that a deploy logs. -/
def deployMessages : List String :=
  ["Deploy started", "Deploy succeeded", "Deploy failed",
    "Deploy aborted: command could not be executed"] ++ Runner.messages

/-- The messages of requests. -/
def requestMessages : List String :=
  ["Request failed", "Request completed"]

/-- The event of an answered request. -/
def requestEvent (request : Request) (status : Nat) : Event :=
  let uri := request.uri
  let target := (uri.scheme.map (· ++ "://")).getD "" ++ uri.authority.getD "" ++ uri.path ++
    (uri.query.map ("?" ++ ·)).getD ""
  let fields := [("method", .text request.method), ("uri", .text target),
    ("status", .text (toString status))]
  if 400 ≤ status ∧ status ≤ 599 then { level := .warn, message := "Request failed", fields }
  else { level := .info, message := "Request completed", fields }

variable {World : Type} {system : System World} {service : Service} {request : Request}
  {response : Response} {world : World} {event : Event} {run : Log} {outcome : Outcome}

theorem answered_eq (request : Request) (response : Response) :
    Service.answered request response = requestEvent request response.status := by
  by_cases h : 400 ≤ response.status ∧ response.status ≤ 599
  · simp [Service.answered, requestEvent, Response.failed, Uri.text, h]
  · simp [Service.answered, requestEvent, Response.failed, Uri.text, h]

theorem message_outcomeEvent (outcome : Outcome) :
    (outcomeEvent outcome).message ∈ deployMessages := by
  cases outcome <;> simp [outcomeEvent, deployMessages]

namespace Service

end Service

end Rollout.Http
