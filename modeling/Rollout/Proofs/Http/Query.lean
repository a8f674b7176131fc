import Mathlib.Data.List.TakeWhile
import Rollout.Http.Uri
import Rollout.Proofs.Http.Handling
import Rollout.Proofs.Http.ReturnCode
import Rollout.Proofs.Http.Spelling
import Rollout.Proofs.Runner.Recording

/-!
# From a query to a checkout

A list of names and values travels in the query of a request and comes out at
the checkout: the value named `tag` is what is checked out, letter by letter,
and nothing else in the list has any effect. A list that names none checks out
the default, and one that names several is refused.
-/

namespace Rollout.Http

-- ---------------------------------------------------------------------------
-- A written list is a query
-- ---------------------------------------------------------------------------

namespace Form

theorem encode_plain_isQueryChar : ∀ n < 256, isPlain (UInt8.ofNat n) = true →
    Uri.isQueryChar (Char.ofNat n) = true := by
  decide +kernel

theorem isQueryChar_hexDigit : ∀ n < 16, Uri.isQueryChar (Text.hexDigit 'A' n) = true := by
  decide

theorem isQueryChar_writeOctet {b : UInt8} {c : Char} (h : c ∈ writeOctet b) :
    Uri.isQueryChar c = true := by
  have hlt : b.toNat < 256 := b.toNat_lt
  unfold writeOctet at h
  split at h
  next =>
    obtain rfl := List.mem_singleton.1 h
    decide
  next =>
    split at h
    next hplain =>
      obtain rfl := List.mem_singleton.1 h
      exact encode_plain_isQueryChar b.toNat hlt (by rwa [UInt8.ofNat_toNat])
    next =>
      simp only [Text.hexPair, List.mem_cons, List.not_mem_nil, or_false] at h
      rcases h with rfl | rfl | rfl
      · decide
      · exact isQueryChar_hexDigit _ (by omega)
      · exact isQueryChar_hexDigit _ (by omega)

theorem isQueryChar_writePart {text : String} {c : Char} (h : c ∈ writePart text) :
    Uri.isQueryChar c = true := by
  obtain ⟨b, -, hb⟩ := List.mem_flatMap.1 h
  exact isQueryChar_writeOctet hb

theorem isQueryChar_writePair {pair : String × String} {c : Char} (h : c ∈ writePair pair) :
    Uri.isQueryChar c = true := by
  rcases List.mem_append.1 h with h | h
  · exact isQueryChar_writePart h
  · rcases List.mem_cons.1 h with rfl | h
    · decide
    · exact isQueryChar_writePart h

theorem isQueryChar_write (pairs : List (String × String)) :
    (write pairs).toList.all Uri.isQueryChar = true := by
  rw [write, String.toList_ofList, List.all_eq_true]
  induction pairs with
  | nil =>
    intro c hc
    cases hc
  | cons first rest ih =>
    intro c hc
    cases rest with
    | nil => exact isQueryChar_writePair (by simpa using hc)
    | cons second rest =>
      rw [List.map_cons, List.map_cons, List.intercalate_cons_cons, List.append_assoc,
        List.mem_append, List.singleton_append, List.mem_cons] at hc
      rcases hc with hc | rfl | hc
      · exact isQueryChar_writePair hc
      · decide
      · exact ih c hc

end Form

namespace Uri

theorem isPathChar_ne {c : Char} (h : isPathChar c = true) : c ≠ '#' ∧ c ≠ '?' := by
  constructor
  · rintro rfl
    exact absurd h (by decide)
  · rintro rfl
    exact absurd h (by decide)

theorem isQueryChar_ne {c : Char} (h : isQueryChar c = true) : c ≠ '#' := by
  rintro rfl
  exact absurd h (by decide)

theorem behind_path_query (path query : List Char) (given : path ≠ [])
    (path_chars : path.all isPathChar = true) (query_chars : query.all isQueryChar = true) :
    behind none none (path ++ '?' :: query) =
      .ok { path := String.ofList path, query := some (String.ofList query) } := by
  have hpath := List.all_eq_true.1 path_chars
  have hquery := List.all_eq_true.1 query_chars
  have hfragment : (path ++ '?' :: query).takeWhile (· != '#') = path ++ '?' :: query := by
    rw [List.takeWhile_eq_self_iff]
    intro c hc
    simp only [List.mem_append, List.mem_cons] at hc
    rcases hc with hc | rfl | hc
    · simpa using (isPathChar_ne (hpath c hc)).1
    · decide
    · simpa using isQueryChar_ne (hquery c hc)
  have hends : (path ++ '?' :: query).takeWhile (· != '?') = path := by
    rw [List.takeWhile_append_of_pos fun c hc => by simpa using (isPathChar_ne (hpath c hc)).2]
    simp
  have hrest : ((path ++ '?' :: query).drop path.length).drop 1 = query := by
    simp
  have hlength : path.length < (path ++ '?' :: query).length := by simp
  have hgiven : path.isEmpty = false := by simpa using given
  simp only [behind, hfragment, hends, hrest, path_chars, query_chars, hlength, hgiven,
    Bool.and_self, Bool.false_eq_true, ↓reduceIte]

/-- A target of a path and a query whose characters may stand there. -/
theorem parse_path_query (path query : String) (rooted : path.toList.head? = some '/')
    (path_chars : path.toList.all isPathChar = true)
    (query_chars : query.toList.all isQueryChar = true)
    (fits : (path ++ "?" ++ query).utf8ByteSize ≤ sizeLimit) :
    parse (path ++ "?" ++ query) = .ok { path, query := some query } := by
  obtain ⟨rest, hrest⟩ := List.head?_eq_some_iff.1 rooted
  have htext : (path ++ "?" ++ query).toList = '/' :: (rest ++ '?' :: query.toList) := by
    simp [hrest]
  have hbehind := behind_path_query ('/' :: rest) query.toList (List.cons_ne_nil _ _)
    (hrest ▸ path_chars) query_chars
  rw [← hrest, String.ofList_toList, String.ofList_toList, hrest] at hbehind
  unfold parse
  rw [htext]
  simp only [Nat.not_lt.2 fits, ↓reduceIte]
  exact hbehind

theorem parse_of_long {text : String} (long : sizeLimit < text.utf8ByteSize) :
    parse text = .error .tooLong := by
  simp only [parse, long, ↓reduceIte]
  rfl

end Uri

namespace Service

variable {World : Type} {system : System World} {service : Service} {request : Request}
  {tag : String} {world : World}

-- ---------------------------------------------------------------------------
-- What a query does
-- ---------------------------------------------------------------------------

theorem tags_of_spelled {pairs : List (String × String)}
    (h : Form.Spelled pairs (request.uri.query.getD "")) :
    request.tags = (pairs.filter (·.1 == "tag")).map (·.2) := by
  rw [Request.tags, Form.read_of_spelled h]

/-- A POST of `/deploy` is met by what its query names and by nothing else. -/
theorem reply_of_post (method : request.method = "POST") (path : request.uri.path = "/deploy") :
    service.reply request = match request.tags with
      | [] => .deploy "HEAD"
      | [tag] => .deploy tag
      | _ => .respond (.plain 400 repeatedTag) := by
  simp only [reply, Route.ofPath?, path, Route.methods, method, tagOf_eq, List.mem_singleton,
    ↓reduceIte]
  rcases request.tags with _ | ⟨tag, _ | ⟨second, rest⟩⟩ <;> rfl

/-- A deploy asks for the commands that are run of its plan, in order. -/
theorem handle_asked (config : DeployConfig) (startedAt : String) (world : World)
    (deploys : request.deployTag? = some tag) :
    ((ofConfig config startedAt).handle system.recording request (world, [])).world.2 =
      ((Runner.ofConfig config).executed system ((Plan.ofConfig config).commands tag) world).map
        (Runner.ofConfig config).request := by
  obtain ⟨-, -, -, hworld⟩ :=
    handle_of_deploy system.recording config startedAt (world, []) deploys
  rw [hworld, Runner.executed_recording, Runner.worldAfter_recording, List.nil_append]

/-- What becomes of a list of names and values that is sent with a deploy.
Some target carries it unless it is too long. However the list is spelled, the
tag that is checked out is the value it gives for `tag`, as one argument, or the
default where it gives none. Where it gives several, the request is refused and
nothing is run. No other pair makes any difference. -/
theorem handle_reads_tag {World : Type} (system : System World) (config : DeployConfig)
    (startedAt : String) (world : World) (pairs : List (String × String)) :
    let service := ofConfig config startedAt
    let values := (pairs.filter (·.1 == "tag")).map (·.2)
    let target := "/deploy?" ++ Form.write pairs
    Form.Spelled pairs (Form.write pairs) ∧
    (Uri.parse target = if 65534 < target.utf8ByteSize then .error .tooLong
      else .ok { path := "/deploy", query := some (Form.write pairs) }) ∧
    ∀ request : Request, request.method = "POST" → request.uri.path = "/deploy" →
      Form.Spelled pairs (request.uri.query.getD "") →
      let report := service.handle system request world
      let asked := (service.handle system.recording request (world, [])).world.2
      (∀ tag, values = [] ∧ tag = "HEAD" ∨ values = [tag] →
        let commands := service.plan.commands tag
        commands[2]? = some { program := config.git, args := ["checkout", tag] } ∧
        asked = (service.runner.executed system commands world).map service.runner.request ∧
        ∃ outcome, (service.runner.runAll system commands world).value = .ok outcome ∧
          report.value = .ok (.ofOutcome outcome)) ∧
      (1 < values.length → asked = [] ∧ report.world = world ∧
        ∃ response, report.value = .ok response ∧ response.status = 400 ∧
          response.values "x-returncode" = []) ∧
      ∀ (others : List (String × String)) (other : Request), other.method = "POST" →
        other.uri.path = "/deploy" → Form.Spelled others (other.uri.query.getD "") →
        (others.filter (·.1 == "tag")).map (·.2) = values →
        service.answer system other world = service.answer system request world := by
  intro service values target
  refine ⟨Form.spelled_write pairs, ?_, ?_⟩
  · split
    next long => exact Uri.parse_of_long long
    next fits =>
      exact Uri.parse_path_query "/deploy" (Form.write pairs) (by decide) (by decide)
        (Form.isQueryChar_write pairs) (Nat.not_lt.1 fits)
  · intro request method path spelled report asked
    have htags : request.tags = values := tags_of_spelled spelled
    refine ⟨fun tag named => ?_, fun several => ?_, ?_⟩
    · have deploys : request.deployTag? = some tag :=
        Request.deployTag?_eq_some_iff.2 ⟨method, path, htags ▸ named⟩
      obtain ⟨outcome, hrun, hvalue, -⟩ := handle_of_deploy system config startedAt world deploys
      exact ⟨rfl, handle_asked config startedAt world deploys, outcome, hrun, hvalue⟩
    · have hreply : service.reply request = .respond (.plain 400 repeatedTag) := by
        rw [reply_of_post method path, htags]
        match values, several with
        | _ :: _ :: _, _ => rfl
      have hreport : report = _ := handle_of_respond hreply
      have hasked : asked = [] := by simp only [asked, handle_of_respond hreply]
      rw [hreport, hasked]
      exact ⟨rfl, rfl, _, rfl, rfl, rfl⟩
    · intro others other method' path' spelled' hvalues
      have hreply : service.reply other = service.reply request := by
        rw [reply_of_post method path, reply_of_post method' path', htags,
          tags_of_spelled spelled', hvalues]
      simp only [answer, hreply]

/-- Characters with a meaning in queries and shells are checked out as they are. -/
example :
    let tag := "v 1+%26=\"é\n"
    let query := Form.write [("ta", "x"), ("tag", tag), ("tag ", "y")]
    let request : Request := ⟨"POST", { path := "/deploy", query := some query }, [], ""⟩
    let system : System Nat := fun count _ => (count + 1, .ended (.exited 0) [] [])
    (((ofConfig {} "now").handle system.recording request (0, [])).world.2)[2]?.map (·.args) =
      some ["checkout", tag] := by
  decide +kernel

end Service

end Rollout.Http
