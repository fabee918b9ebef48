import ApiGateway.Processor.Process

/-!
The audit record of `impl.Process`.

`Process` registers the deferred `Write` once the request is admitted
(validated, looked up, authenticated and authorized) and before the rate
limiter; the record goes out when the policy audits the method, and its result
is `error` only when the backend call failed. So:

* every run writes at most one record, for the request's service and method,
  and its result is `error` exactly when the backend was called and failed
  (`process_audit_record`); a request rejected before the `defer` leaves none
  (`process_records_of_admitted_error`);
* a request the limiter stops, which never reaches the backend, is still
  audited, and as a success (`process_records_of_limiter_stop`).

Beyond the record, every run calls the limiter, the backend and the auditor
each at most once and in that order (`process_calls_sublist`).
-/

namespace ApiGateway

/-- The record a call writes, if it is the auditor's `Write`. -/
def Call.written : Call → Option AuditFields
  | .write fields => some fields
  | _ => none

/-- The audit records of a run, in the order they are written. -/
def Processor.Run.records (run : Processor.Run) : List AuditFields :=
  run.calls.filterMap Call.written

namespace Processor

section Records

variable {p : Processor} {r : ProcessRequest} {a : Admission}

theorem dispatch_records (c : Client) (s : Option SubjectInformation) :
    (dispatch c r s).calls.filterMap Call.written = [] := by
  simp [dispatch_calls, Call.written]

/-- Nothing after the `defer` writes a record. -/
theorem serve_records : (p.serve r a).calls.filterMap Call.written = [] := by
  rcases serve_cases p r a with ⟨-, -, hserve⟩ | ⟨_, _, -, ⟨_, -, hserve⟩ | ⟨-, -, hserve⟩ | ⟨-, -, hserve⟩⟩ <;>
    simp [hserve, dispatch_records, Call.written]

theorem process_records_of_admitted_error {rej : Rejection} (h : p.admitted r = .error rej) :
    (p.process r).records = [] := by
  simp [process, h, Run.records]

theorem process_records_of_admitted_ok (h : p.admitted r = .ok a) :
    (p.process r).records =
      if a.description.needAudit r.apiMethod then
        [⟨r.service, r.apiMethod, a.subjectInformation, (p.serve r a).result⟩]
      else [] := by
  simp only [process, h, Run.records, List.filterMap_append, serve_records, auditCalls]
  split <;> rfl

theorem dispatch_result_eq_error {c : Client} {s : Option SubjectInformation} :
    (dispatch c r s).result = .error ↔ ∃ e, (dispatch c r s).outcome = .error (.processFailed e) := by
  unfold dispatch; dsimp only; split <;> simp

/-- **The record's result is `error` exactly when the backend call failed.** -/
theorem serve_result_eq_error :
    (p.serve r a).result = .error ↔ ∃ e, (p.serve r a).outcome = .error (.processFailed e) := by
  rcases serve_cases p r a with ⟨-, -, hserve⟩ | ⟨_, _, -, ⟨_, -, hserve⟩ | ⟨-, -, hserve⟩ | ⟨-, -, hserve⟩⟩ <;>
    rw [hserve]
  · exact dispatch_result_eq_error
  · simp
  · simp
  · exact dispatch_result_eq_error

/-- **One audit record at most, and an `error` only for a failed backend
call**: every run writes at most one record, for the request's service and
method, and its result is `error` exactly when the run ended with the
backend's error. -/
theorem process_audit_record (p : Processor) (r : ProcessRequest) :
    (p.process r).records.length ≤ 1 ∧
      ∀ fields ∈ (p.process r).records, fields.service = r.service ∧ fields.method = r.apiMethod ∧
        (fields.result = .error ↔ ∃ e, p.outcome r = .error (.processFailed e)) := by
  rcases h : p.admitted r with rej | a
  · simp [process_records_of_admitted_error h]
  · have hout : p.outcome r = (p.serve r a).outcome := by simp [outcome, h]
    rw [process_records_of_admitted_ok h, hout]
    split <;> simp [serve_result_eq_error]

theorem serve_result_of_not_passes (h : ¬ LimiterPasses p r a) : (p.serve r a).result = .ok := by
  unfold LimiterPasses at h
  push_neg at h
  obtain ⟨limiter, svc, hsel, hstop⟩ := h
  simp only [serve, hsel]
  split
  · rfl
  · split
    next herr hallow => exact absurd ⟨herr, hallow⟩ hstop
    next => rfl

/-- **The limiter's early returns are audited as successes**: an admitted
request of an audited method that the limiter stops, with an error or a
denial, never reaches the backend, yet its run writes one record, with result
ok. -/
theorem process_records_of_limiter_stop (ha : p.admitted r = .ok a)
    (haudit : a.description.needAudit r.apiMethod = true) (hstop : ¬ LimiterPasses p r a) :
    (p.process r).records = [⟨r.service, r.apiMethod, a.subjectInformation, .ok⟩] ∧
      ∀ req, Call.process req ∉ (p.process r).calls := by
  refine ⟨by rw [process_records_of_admitted_ok ha, if_pos haudit, serve_result_of_not_passes hstop],
    fun req hreq => ?_⟩
  obtain ⟨a', ha', hserve⟩ := process_mem_process_calls.mp hreq
  cases ha.symm.trans ha'
  exact hstop (process_mem_serve_calls.mp hserve).2

end Records

/-! ### The shape of a run -/

section Shape

variable {p : Processor} {r : ProcessRequest} {a : Admission}

/-- After the `defer`: at most one `Allow`, then at most one backend call, of
the request forwarded with the admitted subject. -/
theorem serve_calls_sublist :
    ∃ key limit, List.Sublist (p.serve r a).calls
      [.allow key limit, .process (forwardedRequest r a.subjectInformation)] := by
  rcases serve_cases p r a with ⟨-, -, hs⟩ | ⟨_, _, -, ⟨_, -, hs⟩ | ⟨-, -, hs⟩ | ⟨-, -, hs⟩⟩ <;> rw [hs]
  · exact ⟨⟨"", false, "", ""⟩, ⟨0, 0, Duration.second⟩, by simp [dispatch_calls]⟩
  · exact ⟨_, _, .cons₂ _ (List.nil_sublist _)⟩
  · exact ⟨_, _, .cons₂ _ (List.nil_sublist _)⟩
  · exact ⟨_, _, by simp only [dispatch_calls]; exact .refl _⟩

theorem auditCalls_sublist (result : AuditResult) :
    List.Sublist (auditCalls r a result)
      [.write ⟨r.service, r.apiMethod, a.subjectInformation, result⟩] := by
  unfold auditCalls; split
  · exact .refl _
  · exact List.nil_sublist _

/-- **Every run calls out in pipeline order, each collaborator at most
once**: a run's calls are a sublist of one `Allow`, one backend `Process` of
the forwarded request and one audit `Write` of the request, in that order, and
the backend and the auditor see the same subject. -/
theorem process_calls_sublist (p : Processor) (r : ProcessRequest) :
    ∃ key limit subject result, List.Sublist (p.process r).calls
      [.allow key limit, .process (forwardedRequest r subject),
        .write ⟨r.service, r.apiMethod, subject, result⟩] := by
  unfold process
  split
  next => exact ⟨⟨"", false, "", ""⟩, ⟨0, 0, Duration.second⟩, none, .ok, List.nil_sublist _⟩
  next a _ =>
    obtain ⟨key, limit, hserve⟩ := serve_calls_sublist (p := p) (r := r) (a := a)
    exact ⟨key, limit, a.subjectInformation, _, hserve.append (auditCalls_sublist _)⟩

end Shape

/-! ### A rate-limited request -/

/-- The spec's `greet` service, audited, with a service-level limiter of one
request a second per client IP; its method `hello` is public and allows GET. -/
def greetDescription : ProviderDescription where
  auditEnabled := true
  rateLimiter := some ⟨.ip, 1, 1, Duration.second⟩
  requireAuthentication := false
  requiredPermissions := []
  descriptionByMethod :=
    GoMap.ofList [("hello", ⟨"hello", false, none, false, [], MapSet.ofList [.get]⟩)]

/-- A `greet` backend that answers every request with an empty 200. -/
def greetClient : Client := ⟨.ok greetDescription, fun _ => .ok ⟨[], 200, ∅⟩⟩

/-- A gateway that serves `greet`, with a client's bucket spent: `Allow`
answers `(false, 30s, nil)`. -/
def exhaustedGateway : Processor where
  descriptionStore service := if service = "greet" then some greetDescription else none
  clientStore service := if service = "greet" then some greetClient else none
  tokenParser _ := .error "token is missing"
  reteLimiter _ _ := ⟨false, Duration.ofInt 30000000000, none⟩

/-- `GET /greet/hello?name=ada` without a token. -/
def helloRequest : ProcessRequest :=
  ⟨"greet", .get, "hello", "", "name=ada", [], ∅, "10.0.0.1:5555"⟩

/-- **A rate-limited request is audited as a success**: the request answers
429, never reaches the backend, and leaves one record with result ok. -/
theorem rate_limited_request_audited_ok :
    (exhaustedGateway.process helloRequest).records = [⟨"greet", "hello", none, .ok⟩] ∧
      (∀ req, Call.process req ∉ (exhaustedGateway.process helloRequest).calls) ∧
      (exhaustedGateway.process helloRequest).response.statusCode = 429 :=
  have stop := process_records_of_limiter_stop (p := exhaustedGateway) (r := helloRequest)
    (a := ⟨greetDescription, greetClient, none⟩) rfl rfl
    fun h => absurd (h ⟨.ip, 1, 1, Duration.second⟩ true rfl).2 (by decide)
  ⟨stop.1, stop.2, by decide⟩

end Processor

end ApiGateway
