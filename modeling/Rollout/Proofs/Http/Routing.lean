import Rollout.Http.Service

/-!
# Which requests deploy

A request deploys exactly if it is a POST of `/deploy` that names at most one
tag; its tag and the statuses of all other requests are read off the request
alone.
-/

namespace Rollout.Http

namespace Request

/-- The tags that a query names, in order. -/
def tags (request : Request) : List String :=
  ((Form.read (request.uri.query.getD "")).filter (·.1 == "tag")).map (·.2)

/-- The tag that a request deploys, if it deploys anything. -/
def deployTag? (request : Request) : Option String :=
  if request.method = "POST" ∧ request.uri.path = "/deploy" then
    match request.tags with
    | [] => some "HEAD"
    | [tag] => some tag
    | _ => none
  else none

/-- The statuses that a request may be answered with. -/
def statuses (request : Request) : List Nat :=
  if request.uri.path = "/deploy" then
    if request.method = "POST" then
      if request.tags.length ≤ 1 then [200, 400] else [400]
    else [405]
  else if request.uri.path = "/health" then
    if request.method = "GET" ∨ request.method = "HEAD" then [200] else [405]
  else [404]

theorem deployTag?_eq_some_iff {request : Request} {tag : String} :
    request.deployTag? = some tag ↔ request.method = "POST" ∧ request.uri.path = "/deploy" ∧
      (request.tags = [] ∧ tag = "HEAD" ∨ request.tags = [tag]) := by
  unfold deployTag?
  by_cases h : request.method = "POST" ∧ request.uri.path = "/deploy"
  · match htags : request.tags with
    | [] => simp [h, eq_comm]
    | [_] => simp [h]
    | _ :: _ :: _ => simp [h]
  · simp only [h, ↓reduceIte, reduceCtorEq, false_iff]
    exact fun ⟨hmethod, hpath, _⟩ => h ⟨hmethod, hpath⟩

/-- Only a repeated tag keeps a POST of `/deploy` from deploying. -/
theorem repeated_of_not_deploy {request : Request} (h : request.deployTag? = none)
    (hmethod : request.method = "POST") (hpath : request.uri.path = "/deploy") :
    1 < request.tags.length := by
  simp only [deployTag?, hmethod, hpath, and_self, ↓reduceIte] at h
  match htags : request.tags with
  | [] => simp [htags] at h
  | [_] => simp [htags] at h
  | _ :: _ :: _ => simp

theorem statuses_of_deployTag? {request : Request} {tag : String}
    (h : request.deployTag? = some tag) : request.statuses = [200, 400] := by
  obtain ⟨hmethod, hpath, ⟨htags, -⟩ | htags⟩ := deployTag?_eq_some_iff.1 h
  · simp [statuses, hmethod, hpath, htags]
  · simp [statuses, hmethod, hpath, htags]

theorem mem_statuses {request : Request} {status : Nat} (h : status ∈ request.statuses) :
    status ∈ [200, 400, 404, 405] := by
  unfold statuses at h
  repeat' split at h
  all_goals
    simp only [List.mem_cons, List.not_mem_nil, or_false] at h ⊢
    omega

end Request

/-- What a query decodes to, by the tags it names. -/
theorem tagOf_eq (request : Request) : tagOf request.uri.query =
    match request.tags with
    | [] => .ok none
    | [tag] => .ok (some tag)
    | _ => .error repeatedTag := by
  unfold tagOf Request.tags
  generalize (Form.read (request.uri.query.getD "")).filter (·.1 == "tag") = pairs
  match pairs with
  | [] => rfl
  | [_] => rfl
  | _ :: _ :: _ => rfl

theorem tagOf_of_repeated {request : Request} (h : 1 < request.tags.length) :
    tagOf request.uri.query = .error repeatedTag := by
  rw [tagOf_eq]
  match request.tags, h with
  | _ :: _ :: _, _ => rfl

namespace Service

variable {service : Service} {request : Request}

theorem reply_of_deployTag? {tag : String} (h : request.deployTag? = some tag) :
    service.reply request = .deploy tag := by
  obtain ⟨hmethod, hpath, ⟨htags, rfl⟩ | htags⟩ := Request.deployTag?_eq_some_iff.1 h
  · have htag : tagOf request.uri.query = .ok none := by rw [tagOf_eq, htags]
    simp [reply, Route.ofPath?, hpath, Route.methods, hmethod, htag, resolveTag, defaultTag]
  · have htag : tagOf request.uri.query = .ok (some tag) := by rw [tagOf_eq, htags]
    simp [reply, Route.ofPath?, hpath, Route.methods, hmethod, htag, resolveTag]

/-- A request that does not deploy is answered at once. -/
theorem reply_of_not_deploy (h : request.deployTag? = none) :
    ∃ response, service.reply request = .respond response ∧
      response.status ∈ request.statuses := by
  by_cases hdeploy : request.uri.path = "/deploy"
  · by_cases hmethod : request.method = "POST"
    · have hmany := Request.repeated_of_not_deploy h hmethod hdeploy
      refine ⟨.plain 400 repeatedTag, ?_, ?_⟩
      · simp [reply, Route.ofPath?, hdeploy, Route.methods, hmethod, tagOf_of_repeated hmany]
      · simp [Request.statuses, hdeploy, hmethod, Nat.not_le.2 hmany, Response.plain,
          Response.typed]
    · refine ⟨.notAllowed ["POST"], ?_, ?_⟩
      · simp [reply, Route.ofPath?, hdeploy, Route.methods, hmethod]
      · simp [Request.statuses, hdeploy, hmethod, Response.notAllowed, Response.bare]
  · by_cases hhealth : request.uri.path = "/health"
    · by_cases hmethod : request.method = "GET" ∨ request.method = "HEAD"
      · refine ⟨if request.method = "HEAD" then service.health.head else service.health, ?_, ?_⟩
        · simp [reply, Route.ofPath?, hhealth, Route.methods, hmethod]
        · have hstatus : service.health.status = 200 := rfl
          split <;> simp [Request.statuses, hhealth, hmethod, Response.head, hstatus]
      · refine ⟨.notAllowed ["GET", "HEAD"], ?_, ?_⟩
        · simp [reply, Route.ofPath?, hhealth, Route.methods, hmethod]
        · simp [Request.statuses, hhealth, hmethod, Response.notAllowed, Response.bare]
    · refine ⟨.notFound, ?_, ?_⟩
      · simp [reply, Route.ofPath?, hdeploy, hhealth]
      · simp [Request.statuses, hdeploy, hhealth, Response.notFound, Response.bare]

theorem deployTag?_of_reply {tag : String} (h : service.reply request = .deploy tag) :
    request.deployTag? = some tag := by
  cases hdeploys : request.deployTag? with
  | none =>
    obtain ⟨response, hreply, -⟩ := (reply_of_not_deploy hdeploys :
      ∃ response, service.reply request = .respond response ∧ _)
    cases h.symm.trans hreply
  | some other =>
    cases h.symm.trans (reply_of_deployTag? hdeploys)
    rfl

end Service

end Rollout.Http
