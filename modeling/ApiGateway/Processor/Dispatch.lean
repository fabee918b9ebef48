import ApiGateway.Processor.Process

/-!
When the processor reaches the backend, and what it answers otherwise.

* `process_dispatches_iff` — `Process` calls the client exactly when the
  request validates, the service and method are described, the HTTP method is
  allowed, a client is registered, authentication (when the policy needs it)
  found a subject holding every required permission, and the selected limiter
  (if any) answered `(true, _, nil)`. The forwarded subject is the parser's,
  absent when parsing failed.
* `process_answers_first_failing_guard` — the guards are stated on their own
  (`Guard.Fails`), in the order the pipeline checks them; when one fails, the
  response is the early return of the first failing one (`Rejection.response`
  of a rejection whose `guard` it is), which answers as `Guard.Answers` says:
  its status, the `{"error_msg": ...}` envelope, `Content-Type:
  application/json`, and `Retry-After` for a denied request. When none fails,
  the response is the backend's after `SetDefaults`.

The bridge between the two views is `Rejection.guard`: every early return is
the failure of its guard (`outcome_error_fails`), and a failing guard stops the
pipeline at or before it (`fails_stops`).
-/

namespace ApiGateway

namespace Processor

/-- The conditions under which a request reaches the backend, stated over the
stores and the collaborators' answers. -/
def DispatchConditions (p : Processor) (r : ProcessRequest) : Prop :=
  r.validate = .ok () ∧
  ∃ d m, p.descriptionStore r.service = some d ∧ d.descriptionByMethod.get? r.apiMethod = some m ∧
    r.httpMethod ∈ m.allowedHTTPMethods.elems ∧ (p.clientStore r.service).isSome ∧
    ((d.needAuthentication r.apiMethod = true ∨ d.permissions r.apiMethod ≠ []) →
      ∃ s, p.tokenParser (getAuthorizationHeaderValue r.headers) = .ok s ∧
        ∀ perm ∈ d.permissions r.apiMethod, perm ∈ s.permissions.elems) ∧
    ∀ limiter isServiceLimiter, d.selectRateLimiter r.apiMethod = (some limiter, isServiceLimiter) →
      let answer := p.reteLimiter (rateLimitKey r (p.subjectOf r) limiter isServiceLimiter)
        (rateLimit limiter)
      answer.allowed = true ∧ answer.err = none

section Dispatch

variable {p : Processor} {r : ProcessRequest}

/-- The requests a run forwards are the forwarded form of the admitted one. -/
theorem process_mem_calls_iff {req : ProviderProcessRequest} :
    Call.process req ∈ (p.process r).calls ↔
      ∃ d c, p.lookup r = .ok (d, c) ∧ p.authenticate r d = .ok (p.subjectOf r) ∧
        req = forwardedRequest r (p.subjectOf r) ∧ LimiterPasses p r ⟨d, c, p.subjectOf r⟩ := by
  rw [process_mem_process_calls]
  constructor
  · rintro ⟨⟨d, c, s⟩, ha, hc⟩
    obtain ⟨hl, hs⟩ := admitted_eq_ok.mp ha
    obtain rfl := (authenticate_eq_ok.mp hs).1
    exact ⟨d, c, hl, hs, process_mem_serve_calls.mp hc⟩
  · rintro ⟨d, c, hl, hs, hc⟩
    exact ⟨⟨d, c, p.subjectOf r⟩, admitted_eq_ok.mpr ⟨hl, hs⟩, process_mem_serve_calls.mpr hc⟩

end Dispatch

/-- **The backend is called exactly when every guard passes**, and it receives
the subject the token parser returned. -/
theorem process_dispatches_iff (p : Processor) (r : ProcessRequest) :
    ((∃ req, Call.process req ∈ (p.process r).calls) ↔ DispatchConditions p r) ∧
    ∀ req, Call.process req ∈ (p.process r).calls → req.subjectInformation = p.subjectOf r := by
  refine ⟨⟨?_, ?_⟩, fun req h => ?_⟩
  · rintro ⟨req, h⟩
    obtain ⟨d, c, hl, hs, -, hlim⟩ := process_mem_calls_iff.mp h
    obtain ⟨hv, hd, ⟨m, hm, hh⟩, hc⟩ := lookup_eq_ok.mp hl
    refine ⟨hv, d, m, hd, hm, hh, by simp [hc], fun hn => ?_, fun l s hsel => ?_⟩
    · exact (authenticate_eq_ok.mp hs).2 (needsAuthentication_iff.mpr hn)
    · exact (hlim l s hsel).symm
  · rintro ⟨hv, d, m, hd, hm, hh, hc, hauth, hlim⟩
    obtain ⟨c, hc⟩ := Option.isSome_iff_exists.mp hc
    exact ⟨_, process_mem_calls_iff.mpr ⟨d, c, lookup_eq_ok.mpr ⟨hv, hd, ⟨m, hm, hh⟩, hc⟩,
      authenticate_eq_ok.mpr ⟨rfl, fun hn => hauth (needsAuthentication_iff.mp hn)⟩, rfl,
      fun l s hsel => (hlim l s hsel).symm⟩⟩
  · obtain ⟨-, -, -, -, rfl, -⟩ := process_mem_calls_iff.mp h
    rfl


end Processor

/-! ### The guards, in pipeline order -/

/-- The pipeline's guards, in the order they are checked. -/
inductive Guard
  | validate
  | description
  | method
  | httpMethod
  | client
  | authentication
  | permission
  | limiterError
  | limiterDenied
  | backend
deriving DecidableEq

/-- The status a failure of each guard answers. -/
def Guard.status : Guard → Nat
  | .validate => 400
  | .description => 404
  | .method => 404
  | .httpMethod => 405
  | .client => 404
  | .authentication => 401
  | .permission => 403
  | .limiterError => 500
  | .limiterDenied => 429
  | .backend => 500

/-- The policy asks for authentication, or names a permission. -/
def NeedsAuth (d : ProviderDescription) (method : String) : Prop :=
  d.needAuthentication method = true ∨ d.permissions method ≠ []

open Processor in
/-- `g` fails on `r`. A guard's condition names the values the guards before it
found (the description, the method's entry, the subject). -/
def Guard.Fails (p : Processor) (r : ProcessRequest) : Guard → Prop
  | .validate => ∃ err, r.validate = .error err
  | .description => p.descriptionStore r.service = none
  | .method => ∃ d, p.descriptionStore r.service = some d ∧
      d.descriptionByMethod.get? r.apiMethod = none
  | .httpMethod => ∃ d m, p.descriptionStore r.service = some d ∧
      d.descriptionByMethod.get? r.apiMethod = some m ∧ r.httpMethod ∉ m.allowedHTTPMethods.elems
  | .client => p.clientStore r.service = none
  | .authentication => ∃ d, p.descriptionStore r.service = some d ∧ NeedsAuth d r.apiMethod ∧
      p.subjectOf r = none
  | .permission => ∃ d s, p.descriptionStore r.service = some d ∧ NeedsAuth d r.apiMethod ∧
      p.subjectOf r = some s ∧ ∃ perm ∈ d.permissions r.apiMethod, perm ∉ s.permissions.elems
  | .limiterError => ∃ d limiter isServiceLimiter, p.descriptionStore r.service = some d ∧
      d.selectRateLimiter r.apiMethod = (some limiter, isServiceLimiter) ∧
      (p.reteLimiter (rateLimitKey r (p.subjectOf r) limiter isServiceLimiter)
        (rateLimit limiter)).err ≠ none
  | .limiterDenied => ∃ d limiter isServiceLimiter, p.descriptionStore r.service = some d ∧
      d.selectRateLimiter r.apiMethod = (some limiter, isServiceLimiter) ∧
      (p.reteLimiter (rateLimitKey r (p.subjectOf r) limiter isServiceLimiter)
        (rateLimit limiter)).err = none ∧
      (p.reteLimiter (rateLimitKey r (p.subjectOf r) limiter isServiceLimiter)
        (rateLimit limiter)).allowed = false
  | .backend => ∃ c err, p.clientStore r.service = some c ∧
      c.process (forwardedRequest r (p.subjectOf r)) = .error err

/-- `resp` is the gateway's error answer to a failure of `g`. -/
def Guard.Answers (g : Guard) (resp : ProviderProcessResponse) : Prop :=
  resp.statusCode.toNat = g.status ∧
  (∃ msg, msg ≠ "" ∧ resp.body = bytesOf ("\x7b\"error_msg\":" ++ jsonString msg ++ "\x7d")) ∧
  resp.headers.get "Content-Type" = "application/json" ∧
  (g = .limiterDenied → (resp.headers.get? "Retry-After").isSome)

/-- The guard whose failure each early return reports. -/
def Rejection.guard : Rejection → Guard
  | .invalidRequest _ => .validate
  | .descriptionNotFound => .description
  | .methodNotFound => .method
  | .httpMethodNotAllowed => .httpMethod
  | .clientNotFound => .client
  | .unauthenticated _ => .authentication
  | .forbidden _ => .permission
  | .rateLimiterFailed _ => .limiterError
  | .rateLimitExceeded _ => .limiterDenied
  | .processFailed _ => .backend

theorem Guard.toCtorIdx_injective {g g' : Guard} (h : g.toCtorIdx = g'.toCtorIdx) : g = g' := by
  simpa [Guard.ofNat_toCtorIdx] using congrArg Guard.ofNat h

theorem append_ne_empty_of_left {s t : String} (h : s ≠ "") : s ++ t ≠ "" := fun e =>
  h (String.ext (List.append_eq_nil.mp (congrArg String.data e)).1)

/-- Every early return answers as its guard says. -/
theorem rejection_response_answers (r : ProcessRequest) (rej : Rejection) :
    rej.guard.Answers (rej.response r) := by
  have envelope : ∀ (code : Nat) (msg : String) (headers : Header), msg ≠ "" →
      ∃ msg', msg' ≠ "" ∧ (newErrorResponse code msg headers).body =
        bytesOf ("\x7b\"error_msg\":" ++ jsonString msg' ++ "\x7d") :=
    fun _ msg _ h => ⟨msg, h, marshalJSONError_of_ne_empty h⟩
  cases rej <;> refine ⟨rfl, envelope _ _ _ ?_, Header.get_set _ _ _, ?_⟩ <;>
    (try (repeat' apply append_ne_empty_of_left); decide) <;>
    simp [Rejection.guard, Rejection.response, newErrorResponse, Header.set, GoMap.get?_ofList]

namespace Processor

section Guards

variable {p : Processor} {r : ProcessRequest}

theorem lookup_error_fails {rej : Rejection} (h : p.lookup r = .error rej) : rej.guard.Fails p r := by
  unfold lookup at h
  split at h
  next e hv => cases h; exact ⟨e, hv⟩
  next hv =>
  split at h
  next hd => cases h; exact hd
  next d hd =>
  split at h
  next hm => cases h; exact ⟨d, hd, hm⟩
  next m hm =>
  split at h
  next hh => cases h; exact ⟨d, m, hd, hm, by simpa [MapSet.containsOne] using hh⟩
  next hh =>
  split at h
  next hc => cases h; exact hc
  next => cases h

theorem lookup_stops {g : Guard} (hg : g.Fails p r) (hgi : g.toCtorIdx ≤ 4) :
    ∃ rej, p.lookup r = .error rej ∧ rej.guard.toCtorIdx ≤ g.toCtorIdx := by
  unfold lookup
  cases g <;> simp only [Guard.toCtorIdx] at hgi <;> (try omega) <;> simp only [Guard.Fails] at hg <;>
    repeat' split
  all_goals try exact ⟨_, rfl, Nat.le_of_ble_eq_true rfl⟩
  all_goals simp_all [MapSet.containsOne]

theorem lookup_error_index {rej : Rejection} (h : p.lookup r = .error rej) :
    rej.guard.toCtorIdx ≤ 4 := by
  unfold lookup at h
  repeat' split at h
  all_goals cases h
  all_goals exact Nat.le_of_ble_eq_true rfl

theorem authenticate_error_fails {d : ProviderDescription} {c : Client} {rej : Rejection}
    (hl : p.lookup r = .ok (d, c)) (h : p.authenticate r d = .error rej) : rej.guard.Fails p r := by
  obtain ⟨-, hd, -, -⟩ := lookup_eq_ok.mp hl
  unfold authenticate at h
  split at h
  next e hp hn => cases h; exact ⟨d, hd, needsAuthentication_iff.mp hn, subjectOf_eq_none.mpr ⟨e, hp⟩⟩
  next => cases h
  next s hp hn =>
    split at h
    next perm hm =>
      cases h
      exact ⟨d, s, hd, needsAuthentication_iff.mp hn, subjectOf_eq_some.mpr hp, perm,
        List.mem_of_find?_eq_some hm, by simpa [MapSet.containsOne] using List.find?_some hm⟩
    next => cases h
  next => cases h

theorem authenticate_stops {d : ProviderDescription} {c : Client} {g : Guard}
    (hl : p.lookup r = .ok (d, c)) (hg : g.Fails p r) (hgi : g = .authentication ∨ g = .permission) :
    ∃ rej, p.authenticate r d = .error rej ∧ rej.guard.toCtorIdx ≤ g.toCtorIdx := by
  obtain ⟨-, hd, -, -⟩ := lookup_eq_ok.mp hl
  rcases hgi with rfl | rfl
  · obtain ⟨d', hd', hn, hs⟩ := hg
    cases hd.symm.trans hd'
    obtain ⟨e, hp⟩ := subjectOf_eq_none.mp hs
    exact ⟨.unauthenticated e, by simp [authenticate, hp, needsAuthentication_iff.mpr hn], le_rfl⟩
  · obtain ⟨d', s, hd', hn, hs, perm, hperm, hlack⟩ := hg
    cases hd.symm.trans hd'
    cases hm : missingPermission (d.permissions r.apiMethod) s with
    | none => exact absurd (missingPermission_eq_none.mp hm perm hperm) hlack
    | some perm' =>
      exact ⟨.forbidden perm', by
        simp [authenticate, subjectOf_eq_some.mp hs, needsAuthentication_iff.mpr hn, hm], le_rfl⟩

theorem authenticate_error_index {d : ProviderDescription} {rej : Rejection}
    (h : p.authenticate r d = .error rej) : rej.guard.toCtorIdx ≤ 6 := by
  unfold authenticate at h
  repeat' split at h
  all_goals cases h
  all_goals exact Nat.le_of_ble_eq_true rfl

theorem admitted_eq_error {rej : Rejection} (h : p.admitted r = .error rej) :
    p.lookup r = .error rej ∨ ∃ d c, p.lookup r = .ok (d, c) ∧ p.authenticate r d = .error rej := by
  unfold admitted at h
  rcases hl : p.lookup r with e | ⟨d, c⟩
  · simp_all [bind, Except.bind]
  · rcases ha : p.authenticate r d with e | s
    · simp_all [bind, Except.bind]
    · simp_all [bind, Except.bind, pure, Except.pure]

theorem admitted_error_index {rej : Rejection} (h : p.admitted r = .error rej) : rej.guard.toCtorIdx ≤ 6 := by
  rcases admitted_eq_error h with hl | ⟨d, c, -, ha⟩
  · exact (lookup_error_index hl).trans (by decide)
  · exact authenticate_error_index ha

section Served

variable {a : Admission} (ha : p.admitted r = .ok a)
include ha

theorem serve_error_fails {rej : Rejection} (h : (p.serve r a).outcome = .error rej) :
    rej.guard.Fails p r := by
  obtain ⟨hl, hs⟩ := admitted_eq_ok.mp ha
  obtain ⟨-, hd, -, hc⟩ := lookup_eq_ok.mp hl
  obtain ⟨hsub, -⟩ := authenticate_eq_ok.mp hs
  have dispatch_fails (h : (dispatch a.client r a.subjectInformation).outcome = .error rej) :
      rej.guard.Fails p r := by
    obtain ⟨e, he, rfl⟩ := dispatch_outcome_eq_error.mp h
    exact ⟨a.client, e, hc, hsub ▸ he⟩
  rcases serve_cases p r a with
    ⟨-, -, hserve⟩ | ⟨limiter, svc, hsel, ⟨e, herr, hserve⟩ | ⟨herr, hden, hserve⟩ | ⟨-, -, hserve⟩⟩ <;>
    rw [hserve] at h
  · exact dispatch_fails h
  · cases h; exact ⟨a.description, limiter, svc, hd, hsel, by rw [← hsub, herr]; simp⟩
  · cases h; exact ⟨a.description, limiter, svc, hd, hsel, hsub ▸ herr, hsub ▸ hden⟩
  · exact dispatch_fails h

theorem serve_stops {g : Guard} (hg : g.Fails p r) (hgi : 7 ≤ g.toCtorIdx) :
    ∃ rej, (p.serve r a).outcome = .error rej ∧ rej.guard.toCtorIdx ≤ g.toCtorIdx := by
  obtain ⟨hl, hs⟩ := admitted_eq_ok.mp ha
  obtain ⟨-, hd, -, hc⟩ := lookup_eq_ok.mp hl
  obtain ⟨hsub, -⟩ := authenticate_eq_ok.mp hs
  cases g <;> simp only [Guard.toCtorIdx] at hgi <;> (try omega)
  case limiterError =>
    obtain ⟨d, limiter, svc, hd', hsel, herr⟩ := hg
    cases hd.symm.trans hd'
    obtain ⟨e, he⟩ := Option.ne_none_iff_exists'.mp herr
    exact ⟨.rateLimiterFailed e, by simp [serve, hsel, hsub, he], le_rfl⟩
  case limiterDenied =>
    obtain ⟨d, limiter, svc, hd', hsel, herr, hallow⟩ := hg
    cases hd.symm.trans hd'
    exact ⟨.rateLimitExceeded
      (p.reteLimiter (rateLimitKey r (p.subjectOf r) limiter svc) (rateLimit limiter)).retryAfter,
      by simp [serve, hsel, hsub, herr, hallow], le_rfl⟩
  case backend =>
    obtain ⟨c, e, hc', he⟩ := hg
    cases hc.symm.trans hc'
    have hdisp : (dispatch a.client r a.subjectInformation).outcome = .error (.processFailed e) :=
      dispatch_outcome_eq_error.mpr ⟨e, hsub ▸ he, rfl⟩
    rcases serve_cases p r a with ⟨-, -, hserve⟩ | ⟨_, _, -, ⟨_, -, hserve⟩ | ⟨-, -, hserve⟩ | ⟨-, -, hserve⟩⟩ <;>
      rw [hserve]
    · exact ⟨_, hdisp, le_rfl⟩
    · exact ⟨_, rfl, Nat.le_of_ble_eq_true rfl⟩
    · exact ⟨_, rfl, Nat.le_of_ble_eq_true rfl⟩
    · exact ⟨_, hdisp, le_rfl⟩

end Served

theorem outcome_of_lookup_error {rej : Rejection} (h : p.lookup r = .error rej) :
    p.outcome r = .error rej := by
  simp [outcome, admitted, h, bind, Except.bind]

theorem outcome_of_authenticate_error {d : ProviderDescription} {c : Client} {rej : Rejection}
    (hl : p.lookup r = .ok (d, c)) (h : p.authenticate r d = .error rej) : p.outcome r = .error rej := by
  simp [outcome, admitted, hl, h, bind, Except.bind]

/-- Every early return is the failure of its guard. -/
theorem outcome_error_fails {rej : Rejection} (h : p.outcome r = .error rej) : rej.guard.Fails p r := by
  unfold outcome at h
  split at h
  next rej' ha =>
    cases h
    rcases admitted_eq_error ha with hl | ⟨d, c, hl, hauth⟩
    · exact lookup_error_fails hl
    · exact authenticate_error_fails hl hauth
  next a ha => exact serve_error_fails ha h

/-- A failing guard stops the pipeline at or before it. -/
theorem fails_stops {g : Guard} (hg : g.Fails p r) :
    ∃ rej, p.outcome r = .error rej ∧ rej.guard.toCtorIdx ≤ g.toCtorIdx := by
  by_cases h4 : g.toCtorIdx ≤ 4
  · obtain ⟨rej, hl, hle⟩ := lookup_stops hg h4
    exact ⟨rej, outcome_of_lookup_error hl, hle⟩
  by_cases h6 : g.toCtorIdx ≤ 6
  · rcases hl : p.lookup r with rej | ⟨d, c⟩
    · exact ⟨rej, outcome_of_lookup_error hl, (lookup_error_index hl).trans (by omega)⟩
    · have hgi : g = .authentication ∨ g = .permission := by
        cases g <;> simp_all [Guard.toCtorIdx]
      obtain ⟨rej, ha, hle⟩ := authenticate_stops hl hg hgi
      exact ⟨rej, outcome_of_authenticate_error hl ha, hle⟩
  · rcases ha : p.admitted r with rej | a
    · exact ⟨rej, by simp [outcome, ha], (admitted_error_index ha).trans (by omega)⟩
    · obtain ⟨rej, hs, hle⟩ := serve_stops ha hg (by omega)
      exact ⟨rej, by simp [outcome, ha, hs], hle⟩

/-- `serve` answers with a response only through `dispatch`. -/
theorem serve_outcome_eq_ok {a : Admission} {resp : ProviderProcessResponse}
    (h : (p.serve r a).outcome = .ok resp) :
    (dispatch a.client r a.subjectInformation).outcome = .ok resp := by
  rcases serve_cases p r a with ⟨-, -, hserve⟩ | ⟨_, _, -, ⟨_, -, hserve⟩ | ⟨-, -, hserve⟩ | ⟨-, -, hserve⟩⟩ <;>
    rw [hserve] at h
  · exact h
  · cases h
  · cases h
  · exact h

/-- A run that takes no early return answers with the backend's response after
`SetDefaults`. -/
theorem outcome_eq_ok {resp : ProviderProcessResponse} (h : p.outcome r = .ok resp) :
    ∃ c processResp, p.clientStore r.service = some c ∧
      c.process (forwardedRequest r (p.subjectOf r)) = .ok processResp ∧
      resp = processResp.setDefaults := by
  unfold outcome at h
  split at h
  next => cases h
  next a ha =>
    obtain ⟨hl, hs⟩ := admitted_eq_ok.mp ha
    obtain ⟨-, -, -, hc⟩ := lookup_eq_ok.mp hl
    obtain ⟨hsub, -⟩ := authenticate_eq_ok.mp hs
    obtain ⟨processResp, he, rfl⟩ := dispatch_outcome_eq_ok.mp (serve_outcome_eq_ok h)
    exact ⟨a.client, processResp, hc, hsub ▸ he, rfl⟩

end Guards

end Processor

/-- **The first failing guard decides the response**: the response is that
guard's own early return, so it carries the guard's status and message in the
JSON error envelope, with `Content-Type: application/json`, and `Retry-After`
when the limiter denied. With no failing guard the response is the backend's
after `SetDefaults`. -/
theorem process_answers_first_failing_guard (p : Processor) (r : ProcessRequest) :
    (∀ g : Guard, g.Fails p r → (∀ g' : Guard, g'.toCtorIdx < g.toCtorIdx → ¬ g'.Fails p r) →
      ∃ rej : Rejection, rej.guard = g ∧ (p.process r).response = rej.response r ∧
        g.Answers (p.process r).response) ∧
    ((∀ g : Guard, ¬ g.Fails p r) →
      ∃ c processResp, p.clientStore r.service = some c ∧
        c.process (Processor.forwardedRequest r (p.subjectOf r)) = .ok processResp ∧
        (p.process r).response = processResp.setDefaults) := by
  refine ⟨fun g hg hfirst => ?_, fun hnone => ?_⟩
  · obtain ⟨rej, ho, hle⟩ := Processor.fails_stops hg
    have hrej : rej.guard = g := by
      by_contra hne
      exact hfirst _ (lt_of_le_of_ne hle fun e => hne (Guard.toCtorIdx_injective e))
        (Processor.outcome_error_fails ho)
    have hresp : (p.process r).response = rej.response r := by rw [Processor.process_response, ho]
    exact ⟨rej, hrej, hresp, hrej ▸ hresp ▸ rejection_response_answers r rej⟩
  · rcases ho : p.outcome r with rej | resp
    · exact absurd (Processor.outcome_error_fails ho) (hnone _)
    · rw [Processor.process_response, ho]
      exact Processor.outcome_eq_ok ho

end ApiGateway
