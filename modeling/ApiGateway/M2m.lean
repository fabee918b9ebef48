import ApiGateway.Go.Time

/-!
`internal/m2m`: the M2M token source.

`create` is `m2m.Create`: a first `update`, then the refresh goroutine that
`updater` starts. The goroutine is a state machine over what its `select`
receives (`step`), and a run is a sequence of such events (`run`). The issuer
(`auth0.Client.Token`) is given by its answers: a `fired` event carries the
answer to the call that timer tick makes.

* The goroutine returns only on `ctx.Done()` or on a failed refresh
  (`run_loop_returned`). `Token` is always the first token or the token of a
  successful refresh (`run_currentToken`).
* A successful refresh stores the token and rearms the timer at
  `calculateNextUpdate` of its `expires_in` (`step_fired_ok`).
* A failed refresh resets the timer to a minute and then returns. The deferred
  `timer.Stop` cancels that reset, so the goroutine ends at its first failure
  and `Token` keeps the last token for good (`failed_refresh_ends_refresher`).
* `calculateNextUpdate` computes in `int64`, so the delay is the exact
  `(expires_in − 600)·10⁹` ns only up to `expires_in = 9223372636`
  (`next_update_exact_only_below_limit`).
-/

namespace ApiGateway

namespace M2m

/-- `auth0.Token`. `expiresIn` is a Go `uint`, 64 bits wide: exactly the values
the JSON decoder admits. -/
structure Token where
  accessToken : String
  tokenType : String
  expiresIn : UInt64
deriving DecidableEq

/-! ### The refresh delay -/

/-- `calculateNextUpdate`: `time.Duration(expiresIn)*time.Second - time.Minute*10`,
each operation in `int64`. -/
def calculateNextUpdate (expiresIn : UInt64) : Duration :=
  Duration.ofInt (wrapInt64 (toGoInt expiresIn * Duration.second.nanoseconds) -
    Duration.minute.nanoseconds * 10)

/-- The three `int64` operations wrap as one: the delay is the exact result
reduced to the `int64` range. -/
theorem calculateNextUpdate_nanoseconds (expiresIn : UInt64) :
    (calculateNextUpdate expiresIn).nanoseconds =
      wrapInt64 (((expiresIn.toNat : Int) - 600) * 1000000000) := by
  simp only [calculateNextUpdate, Duration.ofInt_nanoseconds, toGoInt, Duration.second,
    Duration.minute]
  unfold wrapInt64; omega

/-- **The delay is `expires_in − 600` seconds only below 9223372637**: the
exact value holds exactly up to `expires_in = 9223372636`, and one more second
wraps the delay negative, so the timer fires at once. -/
theorem next_update_exact_only_below_limit :
    (∀ expiresIn : UInt64, (calculateNextUpdate expiresIn).nanoseconds =
        ((expiresIn.toNat : Int) - 600) * 1000000000 ↔ expiresIn.toNat ≤ 9223372636) ∧
      (calculateNextUpdate 9223372637).nanoseconds < 0 :=
  ⟨fun expiresIn => by rw [calculateNextUpdate_nanoseconds, wrapInt64_eq_self_iff]; omega,
    by decide⟩

/-! ### The source and its goroutine -/

/-- The refresh goroutine: waiting on its timer, or returned. -/
inductive Loop
  | waiting (timer : Duration)
  | returned
deriving DecidableEq

/-- `m2m.impl`, with the state of its refresh goroutine. -/
structure Impl where
  audience : String
  currentToken : Option Token
  loop : Loop
deriving DecidableEq

/-- What the goroutine's `select` receives: `ctx.Done()`, or `timer.C` with the
issuer's answer to the `update` it then makes. -/
inductive Event
  | done
  | fired (answer : Except String Token)

/-- `m2m.Create`, given the issuer's answer to the first `update`: on success
the goroutine starts, its timer armed at `calculateNextUpdate` of the token's
`expires_in`. -/
def create (answer : Except String Token) (audience : String) : Except String Impl :=
  match answer with
  | .error err =>
    .error ("creating m2m source: first updating m2m source: updating m2m token: " ++ err)
  | .ok newToken => .ok ⟨audience, some newToken, .waiting (calculateNextUpdate newToken.expiresIn)⟩

/-- `impl.Token`. -/
def Impl.token (s : Impl) : String :=
  match s.currentToken with
  | none => ""
  | some loadedToken => loadedToken.accessToken

/-- One pass of the goroutine's `for`–`select`. A failed `update` runs
`timer.Reset(time.Minute)` and then `return`, whose deferred `timer.Stop`
cancels the reset. -/
def step (s : Impl) (e : Event) : Impl :=
  match s.loop, e with
  | .returned, _ => s
  | .waiting _, .done => { s with loop := .returned }
  | .waiting _, .fired (.error _) => { s with loop := .returned }
  | .waiting _, .fired (.ok newToken) =>
    { s with currentToken := some newToken,
             loop := .waiting (calculateNextUpdate newToken.expiresIn) }

/-- The goroutine after the events `es`, in order. -/
def run (s : Impl) (es : List Event) : Impl := es.foldl step s

/-! ### One step -/

section Step

variable {s : Impl}

theorem step_of_returned (h : s.loop = .returned) (e : Event) : step s e = s := by
  simp [step, h]

@[simp] theorem step_done (s : Impl) : step s .done = { s with loop := .returned } := by
  rcases s with ⟨_, _, _ | _⟩ <;> rfl

/-- A failed refresh ends the goroutine and leaves the token as it was. -/
@[simp] theorem step_fired_error (s : Impl) (err : String) :
    step s (.fired (.error err)) = { s with loop := .returned } := by
  rcases s with ⟨_, _, _ | _⟩ <;> rfl

/-- A successful refresh stores the token and rearms the timer at
`calculateNextUpdate` of its `expires_in`. -/
theorem step_fired_ok {timer : Duration} (h : s.loop = .waiting timer) (newToken : Token) :
    step s (.fired (.ok newToken)) =
      { s with currentToken := some newToken,
               loop := .waiting (calculateNextUpdate newToken.expiresIn) } := by
  simp [step, h]

/-- The goroutine returns only on `ctx.Done()` or a failed refresh. -/
theorem step_loop_returned {e : Event} (h : (step s e).loop = .returned) :
    s.loop = .returned ∨ e = .done ∨ ∃ err, e = .fired (.error err) := by
  rcases s with ⟨_, _, _ | _⟩ <;> rcases e with _ | _ | _ <;> simp_all [step]

/-- Only a successful refresh changes the token, to the one it answered. -/
theorem step_currentToken (e : Event) :
    (step s e).currentToken = s.currentToken ∨
      ∃ newToken, e = .fired (.ok newToken) ∧ (step s e).currentToken = some newToken := by
  rcases s with ⟨_, _, _ | _⟩ <;> rcases e with _ | _ | _ <;> simp [step]

end Step

/-! ### Runs -/

@[simp] theorem run_nil (s : Impl) : run s [] = s := rfl

@[simp] theorem run_cons (s : Impl) (e : Event) (es : List Event) :
    run s (e :: es) = run (step s e) es := rfl

theorem run_append (s : Impl) (es es' : List Event) : run s (es ++ es') = run (run s es) es' :=
  List.foldl_append _ _ _ _

/-- A returned goroutine receives nothing more. -/
theorem run_of_returned {s : Impl} (h : s.loop = .returned) (es : List Event) : run s es = s := by
  induction es with
  | nil => rfl
  | cons e es ih => rw [run_cons, step_of_returned h, ih]

/-- Over a whole run, the goroutine has returned only if it had already, or
the run holds a `ctx.Done()` or a failed refresh. -/
theorem run_loop_returned {s : Impl} {es : List Event} (h : (run s es).loop = .returned) :
    s.loop = .returned ∨ .done ∈ es ∨ ∃ err, .fired (.error err) ∈ es := by
  induction es generalizing s with
  | nil => exact .inl h
  | cons e es ih =>
    rcases ih h with hs | hd | ⟨err, he⟩
    · rcases step_loop_returned hs with hs | rfl | ⟨err, rfl⟩
      · exact .inl hs
      · exact .inr (.inl (List.mem_cons_self _ _))
      · exact .inr (.inr ⟨err, List.mem_cons_self _ _⟩)
    · exact .inr (.inl (List.mem_cons_of_mem _ hd))
    · exact .inr (.inr ⟨err, List.mem_cons_of_mem _ he⟩)

/-- A refresher waiting a minute whose next refresh fails. -/
theorem failing_refresh_returns :
    (run ⟨"greet-api", none, .waiting Duration.minute⟩ [.fired (.error "unavailable")]).loop = .returned ∧
      ((⟨"greet-api", none, .waiting Duration.minute⟩ : Impl).loop = .returned ∨
        Event.done ∈ [Event.fired (.error "unavailable")] ∨
        ∃ err, Event.fired (.error err) ∈ [Event.fired (.error "unavailable")]) :=
  ⟨rfl, run_loop_returned rfl⟩

/-- After any run, the token is the first one or one a refresh answered. -/
theorem run_currentToken (s : Impl) (es : List Event) :
    (run s es).currentToken = s.currentToken ∨
      ∃ newToken, .fired (.ok newToken) ∈ es ∧ (run s es).currentToken = some newToken := by
  induction es generalizing s with
  | nil => exact .inl rfl
  | cons e es ih =>
    rcases ih (step s e) with h | ⟨t, ht, h⟩
    · rcases step_currentToken (s := s) e with h' | ⟨t, rfl, h'⟩
      · exact .inl (h.trans h')
      · exact .inr ⟨t, List.mem_cons_self _ _, h.trans h'⟩
    · exact .inr ⟨t, List.mem_cons_of_mem _ ht, h⟩

/-- **The refresher stops at its first failed refresh**: whatever came before
and whatever follows, once a refresh fails the goroutine has returned, with no
`ctx.Done()`, and `Token` answers the token it held before the failure from
then on. -/
theorem failed_refresh_ends_refresher (s : Impl) (es : List Event) (err : String)
    (rest : List Event) :
    (run s (es ++ .fired (.error err) :: rest)).loop = .returned ∧
      (run s (es ++ .fired (.error err) :: rest)).token = (run s es).token := by
  rw [run_append, run_cons, step_fired_error, run_of_returned rfl]
  exact ⟨rfl, rfl⟩

end M2m

end ApiGateway
