/-
  Spark.Firebase.SecureTokenService

  `FIRSecureTokenService`: the access token of a user, cached until five minutes
  before it expires, and the refresh token it is fetched with.

  Fetches go through a serial queue.  A fetch that finds a valid token in the
  cache is answered from it; any other makes a request, and once more if the
  answer has expired on the way, and the fetches behind it wait for the reply.

  Fetches are answered once each, in the order they were made (`run_fetches`),
  by at most two requests each (`run_requests_le`), and the service goes on until
  all of them are (`run_answers`).  What it hands out is what it
  caches: the token in the cache is the one that was handed out last
  (`run_accessToken`).

  What is relied on outside the source:
    * a token that comes is one that `tokenResultWithToken:` reads, or finds
      unreadable, without an exception.
-/

import Mathlib.Algebra.Order.Ring.Rat
import Spark.Lib.Emission
import Spark.Lib.SerialQueue
import Spark.Lib.Tally
import Spark.Platform.Foundation

namespace Spark.Firebase

open Spark.Lib

-- ============================================================================
-- The service
-- ============================================================================

/-- `timeIntervalSinceNow` of a date in seconds; sent to `nil` it returns 0. -/
def timeIntervalSinceNow (date : Option ℚ) (now : ℚ) : ℚ :=
  (date.map (· - now)).getD 0

def kFiveMinutes : ℚ := 5 * 60

/-- `FIRSecureTokenResponse`; one without an access token is an error. -/
structure SecureTokenResponse where
  accessToken : String
  approximateExpirationDate : ℚ
  refreshToken : Option String := none
  accessToken_ne : accessToken ≠ ""

structure AccessTokenFetch (κ : Type) where
  forceRefresh : Bool
  callback : κ

/-- The arguments a callback is called with. -/
structure AccessTokenCall (κ : Type) where
  callback : κ
  token : Option String
  error : Option NSError
  tokenUpdated : Bool

/-- `request` is the `retryIfExpired` of the request that has not been answered. -/
structure SecureTokenService (κ : Type) where
  accessToken : Option String := none
  accessTokenExpirationDate : Option ℚ := none
  refreshToken : Option String := none
  taskQueue : SerialQueue (AccessTokenFetch κ) := {}
  request : Option Bool := none

namespace SecureTokenService

variable {κ : Type}

def hasValidAccessToken (s : SecureTokenService κ) (now : ℚ) : Bool :=
  s.accessToken.isSome && decide (kFiveMinutes < timeIntervalSinceNow s.accessTokenExpirationDate now)

def fetchAccessToken (s : SecureTokenService κ) (forceRefresh : Bool) (callback : κ) :
    SecureTokenService κ :=
  { s with taskQueue := s.taskQueue.enqueue { forceRefresh, callback } }

/-- `requestAccessToken:callback:`; the request is made with `refreshToken`. -/
def requestAccessToken (s : SecureTokenService κ) (retryIfExpired : Bool) : SecureTokenService κ :=
  { s with request := some retryIfExpired }

/-- The next task of the queue starts: the callback it calls, if it does not
    make a request. -/
def runTask (s : SecureTokenService κ) (now : ℚ) :
    Option (Option (AccessTokenCall κ) × SecureTokenService κ) :=
  s.taskQueue.start.map fun r =>
    if !r.1.forceRefresh && s.hasValidAccessToken now then
      (some ⟨r.1.callback, s.accessToken, none, false⟩, { s with taskQueue := r.2.complete })
    else (none, { s with taskQueue := r.2 }.requestAccessToken true)

/-- The token of a response replaces another one in the cache. -/
def updateAccessToken (s : SecureTokenService κ) (response : SecureTokenResponse) :
    Bool × SecureTokenService κ :=
  if s.accessToken ≠ some response.accessToken then
    (true,
      { s with
        accessToken := some response.accessToken
        accessTokenExpirationDate := some response.approximateExpirationDate })
  else (false, s)

def updateRefreshToken (s : SecureTokenService κ) (response : SecureTokenResponse) :
    Bool × SecureTokenService κ :=
  match response.refreshToken with
  | some refreshToken =>
      if refreshToken ≠ "" ∧ s.refreshToken ≠ some refreshToken then
        (true, { s with refreshToken := some refreshToken })
      else (false, s)
  | none => (false, s)

/-- The task completes. -/
def complete (s : SecureTokenService κ) : SecureTokenService κ :=
  { s with taskQueue := s.taskQueue.complete, request := none }

/-- The token of the response is new and has expired, and the request may be made
    again; `expirationDate` is that of `tokenResultWithToken:`, `nil` if the token
    cannot be read.  Tokens over which it raises an exception do not come. -/
def Expired (s : SecureTokenService κ) (expirationDate : String → Option ℚ)
    (retryIfExpired : Bool) (response : SecureTokenResponse) (now : ℚ) : Prop :=
  s.accessToken ≠ some response.accessToken ∧ retryIfExpired = true ∧
    timeIntervalSinceNow (expirationDate response.accessToken) now ≤ kFiveMinutes

instance (s : SecureTokenService κ) (expirationDate : String → Option ℚ) (retryIfExpired : Bool)
    (response : SecureTokenResponse) (now : ℚ) :
    Decidable (s.Expired expirationDate retryIfExpired response now) :=
  inferInstanceAs (Decidable (_ ∧ _ ∧ _))

/-- The reply to the request: the callback it calls, if it does not make another
    request. -/
def secureTokenReply (s : SecureTokenService κ) (expirationDate : String → Option ℚ)
    (response : Except NSError SecureTokenResponse) (now : ℚ) :
    Option (Option (AccessTokenCall κ) × SecureTokenService κ) :=
  match s.request, s.taskQueue.running, response with
  | some _, some fetch, .error error =>
      some (some ⟨fetch.callback, none, some error, false⟩, s.complete)
  | some retryIfExpired, some fetch, .ok response =>
      if s.Expired expirationDate retryIfExpired response now then
        -- one retry only, in case the clock of the device is off
        some (none, s.requestAccessToken false)
      else
        let a := s.updateAccessToken response
        let r := a.2.updateRefreshToken response
        some (some ⟨fetch.callback, some response.accessToken, none, a.1 || r.1⟩, r.2.complete)
  | _, _, _ => none

/-- A service that has just been created. -/
def initWithRequestConfiguration (accessToken : Option String)
    (accessTokenExpirationDate : Option ℚ) (refreshToken : Option String) :
    SecureTokenService κ :=
  { accessToken, accessTokenExpirationDate, refreshToken }

-- ============================================================================
-- What an update changes
-- ============================================================================

/-- The tokens of a service, which are what is archived of it. -/
def tokens (s : SecureTokenService κ) : Option String × Option ℚ × Option String :=
  (s.accessToken, s.accessTokenExpirationDate, s.refreshToken)

@[simp] theorem tokens_fetchAccessToken (s : SecureTokenService κ) (forceRefresh : Bool)
    (callback : κ) : (s.fetchAccessToken forceRefresh callback).tokens = s.tokens := rfl

theorem updateAccessToken_cases (s : SecureTokenService κ) (response : SecureTokenResponse) :
    (s.updateAccessToken response).2.accessToken = some response.accessToken ∧
      (s.updateAccessToken response).2.taskQueue = s.taskQueue ∧
      (s.updateAccessToken response).2.refreshToken = s.refreshToken ∧
      ((s.updateAccessToken response).1 = false → (s.updateAccessToken response).2 = s) := by
  rw [updateAccessToken]
  split
  · exact ⟨rfl, rfl, rfl, fun h => nomatch h⟩
  · rename_i hsame
    exact ⟨Decidable.not_not.mp hsame, rfl, rfl, fun _ => rfl⟩

/-- A refresh token is replaced by another one, never taken away. -/
theorem updateRefreshToken_cases (s : SecureTokenService κ) (response : SecureTokenResponse) :
    (s.updateRefreshToken response).2.accessToken = s.accessToken ∧
      (s.updateRefreshToken response).2.taskQueue = s.taskQueue ∧
      (s.refreshToken.isSome → (s.updateRefreshToken response).2.refreshToken.isSome) ∧
      ((s.updateRefreshToken response).1 = false → (s.updateRefreshToken response).2 = s) := by
  rw [updateRefreshToken]
  cases response.refreshToken with
  | none => exact ⟨rfl, rfl, fun h => h, fun _ => rfl⟩
  | some refreshToken =>
      dsimp only
      split
      · exact ⟨rfl, rfl, fun _ => rfl, fun h => nomatch h⟩
      · exact ⟨rfl, rfl, fun h => h, fun _ => rfl⟩

-- ============================================================================
-- Steps
-- ============================================================================

inductive Event (κ : Type)
  | fetchAccessToken (forceRefresh : Bool) (callback : κ)
  | runTask (now : ℚ)
  | secureTokenReply (response : Except NSError SecureTokenResponse) (now : ℚ)

section Steps

variable (expirationDate : String → Option ℚ)

/-- What an event calls and where it leads. -/
def react (s : SecureTokenService κ) :
    Event κ → Option (Option (AccessTokenCall κ) × SecureTokenService κ)
  | .fetchAccessToken forceRefresh callback => some (none, s.fetchAccessToken forceRefresh callback)
  | .runTask now => s.runTask now
  | .secureTokenReply response now => s.secureTokenReply expirationDate response now

def step (s : SecureTokenService κ) (e : Event κ) : Option (SecureTokenService κ) :=
  (s.react expirationDate e).map Prod.snd

/-- The callback that an event calls. -/
def called (s : SecureTokenService κ) (e : Event κ) : List (AccessTokenCall κ) :=
  ((s.react expirationDate e).bind Prod.fst).toList

end Steps

/-- The callback that comes with an event. -/
def fetched : Event κ → List κ
  | .fetchAccessToken _ callback => [callback]
  | _ => []

/-- What a service can do. -/
inductive Reaction (s : SecureTokenService κ) (expirationDate : String → Option ℚ) :
    Event κ → Option (AccessTokenCall κ) → SecureTokenService κ → Prop
  | enqueued {forceRefresh : Bool} {callback : κ} :
      Reaction s expirationDate (.fetchAccessToken forceRefresh callback) none
        (s.fetchAccessToken forceRefresh callback)
  | cached {now : ℚ} {fetch : AccessTokenFetch κ} {queue : SerialQueue (AccessTokenFetch κ)}
      {token : String} (hstart : s.taskQueue.start = some (fetch, queue))
      (hforce : fetch.forceRefresh = false) (htoken : s.accessToken = some token)
      (hvalid : kFiveMinutes < timeIntervalSinceNow s.accessTokenExpirationDate now) :
      Reaction s expirationDate (.runTask now) (some ⟨fetch.callback, s.accessToken, none, false⟩)
        { s with taskQueue := queue.complete }
  | requested {now : ℚ} {fetch : AccessTokenFetch κ} {queue : SerialQueue (AccessTokenFetch κ)}
      (hstart : s.taskQueue.start = some (fetch, queue))
      (hmust : fetch.forceRefresh = true ∨ s.hasValidAccessToken now = false) :
      Reaction s expirationDate (.runTask now) none
        { s with taskQueue := queue, request := some true }
  | failed {now : ℚ} {error : NSError} {fetch : AccessTokenFetch κ} {retryIfExpired : Bool}
      (hrequest : s.request = some retryIfExpired) (hrunning : s.taskQueue.running = some fetch) :
      Reaction s expirationDate (.secureTokenReply (.error error) now)
        (some ⟨fetch.callback, none, some error, false⟩) s.complete
  | repeated {now : ℚ} {response : SecureTokenResponse} {fetch : AccessTokenFetch κ}
      (hrequest : s.request = some true) (hrunning : s.taskQueue.running = some fetch)
      (hexpired : s.Expired expirationDate true response now) :
      Reaction s expirationDate (.secureTokenReply (.ok response) now) none
        { s with request := some false }
  | answered {now : ℚ} {response : SecureTokenResponse} {fetch : AccessTokenFetch κ}
      {retryIfExpired updated : Bool} {u : SecureTokenService κ}
      (hrequest : s.request = some retryIfExpired) (hrunning : s.taskQueue.running = some fetch)
      (haccess : u.accessToken = some response.accessToken) (hqueue : u.taskQueue = s.taskQueue)
      (hrefresh : s.refreshToken.isSome → u.refreshToken.isSome)
      (hsame : updated = false → u = s) :
      Reaction s expirationDate (.secureTokenReply (.ok response) now)
        (some ⟨fetch.callback, some response.accessToken, none, updated⟩) u.complete

section Reactions

variable {expirationDate : String → Option ℚ} {s t : SecureTokenService κ} {e : Event κ}

theorem reaction_runTask (expirationDate : String → Option ℚ) {now : ℚ}
    {called : Option (AccessTokenCall κ)}
    (h : s.runTask now = some (called, t)) : Reaction s expirationDate (.runTask now) called t := by
  obtain ⟨⟨fetch, queue⟩, hstart, h⟩ := Option.map_eq_some_iff.mp h
  dsimp only at h
  split at h
  · rename_i hcached
    obtain ⟨rfl, rfl⟩ := Prod.mk.inj h
    obtain ⟨hforce, hvalid⟩ := Bool.and_eq_true_iff.mp hcached
    obtain ⟨htoken, hdate⟩ := Bool.and_eq_true_iff.mp hvalid
    obtain ⟨token, htoken⟩ := Option.isSome_iff_exists.mp htoken
    exact .cached hstart (by simpa using hforce) htoken (of_decide_eq_true hdate)
  · rename_i hmust
    obtain ⟨rfl, rfl⟩ := Prod.mk.inj h
    refine .requested hstart ?_
    cases hforce : fetch.forceRefresh with
    | true => exact .inl rfl
    | false => exact .inr (by simpa [hforce] using hmust)

theorem reaction_secureTokenReply {response : Except NSError SecureTokenResponse} {now : ℚ}
    {called : Option (AccessTokenCall κ)}
    (h : s.secureTokenReply expirationDate response now = some (called, t)) :
    Reaction s expirationDate (.secureTokenReply response now) called t := by
  unfold secureTokenReply at h
  split at h
  · rename_i retryIfExpired fetch error hrequest hrunning
    obtain ⟨rfl, rfl⟩ := Prod.mk.inj (Option.some.inj h)
    exact .failed hrequest hrunning
  · rename_i retryIfExpired fetch response hrequest hrunning
    split at h
    · rename_i hexpired
      obtain ⟨rfl, rfl⟩ := Prod.mk.inj (Option.some.inj h)
      obtain rfl : retryIfExpired = true := hexpired.2.1
      exact .repeated hrequest hrunning hexpired
    · obtain ⟨rfl, rfl⟩ := Prod.mk.inj (Option.some.inj h)
      obtain ⟨haccess, hqueue, hrefresh, hsame⟩ := updateAccessToken_cases s response
      obtain ⟨haccess', hqueue', hrefresh', hsame'⟩ :=
        updateRefreshToken_cases (s.updateAccessToken response).2 response
      refine .answered hrequest hrunning (haccess'.trans haccess) (hqueue'.trans hqueue) ?_ ?_
      · intro h
        exact hrefresh' (hrefresh ▸ h)
      · intro hupdated
        obtain ⟨h₁, h₂⟩ := Bool.or_eq_false_iff.mp hupdated
        exact (hsame' h₂).trans (hsame h₁)
  · cases h

/-- Every step is one of these. -/
theorem reaction {called : Option (AccessTokenCall κ)}
    (h : s.react expirationDate e = some (called, t)) : Reaction s expirationDate e called t := by
  cases e with
  | fetchAccessToken forceRefresh callback =>
      obtain ⟨rfl, rfl⟩ := Prod.mk.inj (Option.some.inj h)
      exact .enqueued
  | runTask now => exact reaction_runTask expirationDate h
  | secureTokenReply response now => exact reaction_secureTokenReply h

theorem reaction_of_step (h : s.step expirationDate e = some t) :
    ∃ called, Reaction s expirationDate e called t ∧ s.called expirationDate e = called.toList := by
  obtain ⟨⟨called, u⟩, hreact, rfl⟩ := Option.map_eq_some_iff.mp h
  refine ⟨called, reaction hreact, ?_⟩
  rw [SecureTokenService.called, hreact]
  rfl

end Reactions

-- ============================================================================
-- Fetches
-- ============================================================================

section Runs

variable {expirationDate : String → Option ℚ}

/-- A request has been made exactly when a task has started. -/
def WellFormed (s : SecureTokenService κ) : Prop :=
  s.request.isSome = s.taskQueue.running.isSome

theorem wellFormed_init (accessToken : Option String) (accessTokenExpirationDate : Option ℚ)
    (refreshToken : Option String) :
    (initWithRequestConfiguration accessToken accessTokenExpirationDate refreshToken :
      SecureTokenService κ).WellFormed := rfl

theorem Reaction.wellFormed {s t : SecureTokenService κ} {e : Event κ}
    {called : Option (AccessTokenCall κ)} (h : Reaction s expirationDate e called t)
    (hs : s.WellFormed) : t.WellFormed := by
  cases h with
  | enqueued => exact hs
  | cached hstart =>
      have hnone : s.request = none := by
        rw [WellFormed, (SerialQueue.start_some hstart).1] at hs
        exact Option.isSome_eq_false_iff.mp hs |> Option.isNone_iff_eq_none.mp
      rw [WellFormed, hnone]
      rfl
  | requested hstart =>
      rw [WellFormed, (SerialQueue.start_some hstart).2.2.1]
      rfl
  | failed => rfl
  | repeated hrequest hrunning =>
      rw [WellFormed, hrunning]
      rfl
  | answered => rfl

theorem WellFormed.step {s t : SecureTokenService κ} {e : Event κ} (hs : s.WellFormed)
    (h : s.step expirationDate e = some t) : t.WellFormed := by
  obtain ⟨called, hreact, -⟩ := reaction_of_step h
  exact hreact.wellFormed hs

/-- A reaction takes the callback it calls from the front of the queue and adds
    the one the event comes with at the back. -/
theorem Reaction.tasks {s t : SecureTokenService κ} {e : Event κ}
    {called : Option (AccessTokenCall κ)} (h : Reaction s expirationDate e called t) :
    called.toList.map AccessTokenCall.callback ++
        t.taskQueue.tasks.map AccessTokenFetch.callback =
      s.taskQueue.tasks.map AccessTokenFetch.callback ++ fetched e := by
  cases h with
  | enqueued => simp [fetchAccessToken, fetched]
  | cached hstart =>
      rw [(SerialQueue.start_some hstart).2.1]
      simp [fetched, SerialQueue.tasks, SerialQueue.complete]
  | requested hstart =>
      rw [(SerialQueue.start_some hstart).2.2.2]
      simp [fetched]
  | failed hrequest hrunning =>
      rw [SerialQueue.tasks_complete hrunning]
      simp [fetched, complete]
  | repeated hrequest hrunning => simp [fetched]
  | answered hrequest hrunning haccess hqueue =>
      rw [SerialQueue.tasks_complete hrunning]
      simp [fetched, complete, hqueue]

theorem tasks_step {s t : SecureTokenService κ} {e : Event κ}
    (h : s.step expirationDate e = some t) :
    (s.called expirationDate e).map AccessTokenCall.callback ++
        t.taskQueue.tasks.map AccessTokenFetch.callback =
      s.taskQueue.tasks.map AccessTokenFetch.callback ++ fetched e := by
  obtain ⟨called, hreact, hcalled⟩ := reaction_of_step h
  rw [hcalled]
  exact hreact.tasks

/-- **Fetches are answered in order.**  Over every run the callbacks that have been
    called, followed by those of the fetches that wait, are those that waited and
    those the fetches came with: none is lost, called twice or called before an
    earlier one. -/
theorem run_fetches {s t : SecureTokenService κ} {es : List (Event κ)}
    (h : run (step expirationDate) s es = some t) :
    emitted (step expirationDate)
        (fun s e => (s.called expirationDate e).map AccessTokenCall.callback) s es ++
      t.taskQueue.tasks.map AccessTokenFetch.callback =
    s.taskQueue.tasks.map AccessTokenFetch.callback ++ es.flatMap fetched := by
  have hstep : ∀ (s : SecureTokenService κ) (e : Event κ) (t : SecureTokenService κ), True →
      s.step expirationDate e = some t →
        (s.called expirationDate e).map AccessTokenCall.callback ++
          t.taskQueue.tasks.map AccessTokenFetch.callback =
        s.taskQueue.tasks.map AccessTokenFetch.callback ++ fetched e :=
    fun _ _ _ _ => tasks_step
  rw [← emitted_event h fetched]
  exact run_queue hstep es s t (along_true _ s es) h

-- ============================================================================
-- The cache
-- ============================================================================

theorem accessToken_step {s t : SecureTokenService κ} {e : Event κ}
    (h : s.step expirationDate e = some t) :
    t.accessToken =
      ((s.called expirationDate e).filterMap AccessTokenCall.token).getLast?.or s.accessToken := by
  obtain ⟨called, hreact, hcalled⟩ := reaction_of_step h
  rw [hcalled]
  cases hreact with
  | cached hstart hforce htoken => simp [htoken]
  | answered hrequest hrunning haccess => simp [complete, haccess]
  | _ => rfl

/-- **The cache holds what was handed out.**  The token in the cache is the last
    one that a callback was called with, and the first one until then. -/
theorem run_accessToken {s t : SecureTokenService κ} {es : List (Event κ)}
    (h : run (step expirationDate) s es = some t) :
    t.accessToken =
      (emitted (step expirationDate)
        (fun s e => (s.called expirationDate e).filterMap AccessTokenCall.token) s
        es).getLast?.or s.accessToken :=
  run_register (fun _ _ _ => accessToken_step) es s t h

/-- Unless a callback is told of an update the tokens are as they were. -/
theorem Reaction.tokens_eq {s t : SecureTokenService κ} {e : Event κ}
    {called : Option (AccessTokenCall κ)} (h : Reaction s expirationDate e called t)
    (hupdated : ∀ c, called = some c → c.tokenUpdated = false) : t.tokens = s.tokens := by
  cases h with
  | answered hrequest hrunning haccess hqueue hrefresh hsame =>
      rw [hsame (hupdated _ rfl)]
      rfl
  | _ => rfl

/-- A callback that is told of an error is not told of an update. -/
theorem Reaction.tokenUpdated_of_error {s t : SecureTokenService κ} {e : Event κ}
    {c : AccessTokenCall κ} {error : NSError} (h : Reaction s expirationDate e (some c) t)
    (herror : c.error = some error) : c.tokenUpdated = false := by
  cases h with
  | answered => cases herror
  | _ => rfl

/-- A service that has a refresh token always has one. -/
theorem Reaction.refreshToken {s t : SecureTokenService κ} {e : Event κ}
    {called : Option (AccessTokenCall κ)} (h : Reaction s expirationDate e called t)
    (hs : s.refreshToken.isSome) : t.refreshToken.isSome := by
  cases h with
  | answered hrequest hrunning haccess hqueue hrefresh => exact hrefresh hs
  | _ => exact hs

-- ============================================================================
-- Requests
-- ============================================================================

variable (expirationDate) in
/-- The requests that an event makes: a block that runs makes one unless it calls
    a callback. -/
def requests (s : SecureTokenService κ) (e : Event κ) : Nat :=
  match e, s.react expirationDate e with
  | .fetchAccessToken .., _ => 0
  | _, some (none, _) => 1
  | _, _ => 0

/-- The requests that may still follow one that has been made. -/
def retries : Option Bool → Nat
  | some true => 1
  | _ => 0

/-- The requests the service may still make for the fetches it has. -/
def allowance (s : SecureTokenService κ) : Nat :=
  2 * s.taskQueue.waiting.length + retries s.request

theorem start_waiting {q q' : SerialQueue (AccessTokenFetch κ)} {fetch : AccessTokenFetch κ}
    (h : q.start = some (fetch, q')) : q.waiting.length = q'.waiting.length + 1 := by
  have hwaiting : q.waiting = fetch :: q'.waiting := by
    have htasks := (SerialQueue.start_some h).2.1
    rw [SerialQueue.tasks, (SerialQueue.start_some h).1] at htasks
    exact htasks
  rw [hwaiting, List.length_cons]

theorem requests_step {s t : SecureTokenService κ} {e : Event κ}
    (h : s.step expirationDate e = some t) :
    s.requests expirationDate e + t.allowance ≤ s.allowance + 2 * (fetched e).length := by
  obtain ⟨⟨called, u⟩, hreact, rfl⟩ := Option.map_eq_some_iff.mp h
  rw [requests.eq_def, hreact]
  cases reaction hreact with
  | enqueued =>
      simp only [allowance, fetched, fetchAccessToken, SerialQueue.enqueue, List.length_append,
        List.length_singleton]
      omega
  | cached hstart =>
      have hwaiting := start_waiting hstart
      simp only [allowance, fetched, SerialQueue.complete, List.length_nil]
      omega
  | requested hstart =>
      have hwaiting := start_waiting hstart
      simp only [allowance, fetched, retries, List.length_nil]
      omega
  | failed => simp [allowance, fetched, complete, SerialQueue.complete, retries]
  | repeated hrequest => simp [allowance, fetched, hrequest, retries, Nat.add_comm]
  | answered hrequest hrunning haccess hqueue =>
      simp [allowance, fetched, complete, SerialQueue.complete, hqueue, retries]

/-- **Two requests a fetch.**  A run of a new service makes at most two requests
    for each fetch, and none yet for those that have not started. -/
theorem run_requests_le {accessToken refreshToken : Option String}
    {accessTokenExpirationDate : Option ℚ} {t : SecureTokenService κ} {es : List (Event κ)}
    (h : run (step expirationDate)
      (initWithRequestConfiguration accessToken accessTokenExpirationDate refreshToken) es =
        some t) :
    tally (step expirationDate) (requests expirationDate)
        (initWithRequestConfiguration accessToken accessTokenExpirationDate refreshToken) es +
      2 * t.taskQueue.waiting.length ≤ 2 * (es.flatMap fetched).length := by
  have hstep : ∀ (s : SecureTokenService κ) (e : Event κ) (t : SecureTokenService κ), True →
      s.step expirationDate e = some t →
        s.requests expirationDate e + t.allowance ≤ s.allowance + 2 * (fetched e).length :=
    fun _ _ _ _ => requests_step
  have haccount := run_account_le hstep es _ t (along_true _ _ es) h
  rw [tally_length h] at haccount
  have hnone : (initWithRequestConfiguration accessToken accessTokenExpirationDate refreshToken :
      SecureTokenService κ).allowance = 0 := rfl
  have hleft : 2 * t.taskQueue.waiting.length ≤ t.allowance := Nat.le_add_right _ _
  omega

-- ============================================================================
-- Progress
-- ============================================================================

/-- The steps that the service takes on its own. -/
def Own (_ : SecureTokenService κ) (e : Event κ) : Prop := fetched e = []

/-- The steps a request has left, its repetition included. -/
def stepsOfRequest : Option Bool → Nat
  | none => 0
  | some false => 1
  | some true => 2

/-- The steps the service has left. -/
def stepsLeft (s : SecureTokenService κ) : Nat :=
  3 * s.taskQueue.waiting.length + stepsOfRequest s.request

theorem Reaction.stepsLeft_lt {s t : SecureTokenService κ} {e : Event κ}
    {called : Option (AccessTokenCall κ)} (h : Reaction s expirationDate e called t)
    (hown : fetched e = []) : t.stepsLeft < s.stepsLeft := by
  cases h with
  | enqueued => cases hown
  | cached hstart =>
      have hwaiting := start_waiting hstart
      simp only [stepsLeft, SerialQueue.complete]
      omega
  | requested hstart =>
      have hwaiting := start_waiting hstart
      simp only [stepsLeft, stepsOfRequest]
      omega
  | @failed now error fetch retryIfExpired hrequest =>
      cases retryIfExpired <;>
        simp only [stepsLeft, complete, SerialQueue.complete, hrequest, stepsOfRequest] <;> omega
  | repeated hrequest =>
      simp only [stepsLeft, hrequest, stepsOfRequest]
      omega
  | @answered now response fetch retryIfExpired updated u hrequest hrunning haccess hqueue =>
      cases retryIfExpired <;>
        simp only [stepsLeft, complete, SerialQueue.complete, hrequest, hqueue, stepsOfRequest] <;>
          omega

theorem stepsLeft_step {s t : SecureTokenService κ} {e : Event κ} (hown : s.Own e)
    (h : s.step expirationDate e = some t) : t.stepsLeft < s.stepsLeft := by
  obtain ⟨called, hreact, -⟩ := reaction_of_step h
  exact hreact.stepsLeft_lt hown

theorem WellFormed.stepsLeft_le {s : SecureTokenService κ} (hs : s.WellFormed) :
    s.stepsLeft ≤ 3 * s.taskQueue.tasks.length := by
  have hrequest : stepsOfRequest s.request ≤ 3 * s.taskQueue.running.toList.length := by
    rw [WellFormed] at hs
    cases hrunning : s.taskQueue.running with
    | none =>
        rw [hrunning] at hs
        rw [Option.isNone_iff_eq_none.mp (Option.isSome_eq_false_iff.mp hs)]
        exact Nat.zero_le _
    | some fetch =>
        have hle : stepsOfRequest s.request ≤ 2 := by
          rcases s.request with _ | _ | _ <;> decide
        exact Nat.le_trans hle (by decide : 2 ≤ 3 * 1)
  rw [stepsLeft, SerialQueue.tasks, List.length_append]
  omega

/-- While a fetch waits the next task can start, or any reply be taken. -/
theorem WellFormed.exists_step {s : SecureTokenService κ} (hs : s.WellFormed)
    (htasks : s.taskQueue.tasks ≠ []) (response : Except NSError SecureTokenResponse) (now : ℚ) :
    ∃ e ∈ [.runTask now, .secureTokenReply response now], (s.step expirationDate e).isSome := by
  cases hrunning : s.taskQueue.running with
  | none =>
      obtain ⟨fetch, queue, hstart⟩ := SerialQueue.exists_start hrunning htasks
      refine ⟨.runTask now, by simp, ?_⟩
      simp [SecureTokenService.step, react, runTask, hstart]
  | some fetch =>
      rw [WellFormed, hrunning] at hs
      obtain ⟨retryIfExpired, hrequest⟩ := Option.isSome_iff_exists.mp hs
      refine ⟨.secureTokenReply response now, by simp, ?_⟩
      rw [SecureTokenService.step, Option.isSome_map, react, secureTokenReply.eq_def, hrequest, hrunning]
      cases response with
      | error error => rfl
      | ok response =>
          dsimp only
          split <;> rfl

/-- Once the cached token is no longer valid, the next task makes a request. -/
theorem WellFormed.exists_request {s : SecureTokenService κ} (hs : s.WellFormed)
    (htasks : s.taskQueue.tasks ≠ []) (hrequest : s.request = none) :
    ∃ service due, service.request.isSome ∧
      ∀ now, due ≤ now → s.runTask now = some (none, service) := by
  have hrunning : s.taskQueue.running = none := by
    rw [WellFormed, hrequest] at hs
    cases hrunning : s.taskQueue.running with
    | none => rfl
    | some fetch =>
        rw [hrunning] at hs
        cases hs
  obtain ⟨fetch, queue, hstart⟩ := SerialQueue.exists_start hrunning htasks
  refine ⟨{ s with taskQueue := queue }.requestAccessToken true,
    s.accessTokenExpirationDate.getD 0, rfl, ?_⟩
  intro now hdue
  have hexpired : timeIntervalSinceNow s.accessTokenExpirationDate now ≤ kFiveMinutes := by
    have hinterval : timeIntervalSinceNow s.accessTokenExpirationDate now ≤ 0 := by
      rw [timeIntervalSinceNow]
      cases hdate : s.accessTokenExpirationDate with
      | none => exact le_refl 0
      | some date =>
          rw [hdate] at hdue
          exact sub_nonpos_of_le hdue
    exact le_trans hinterval (by decide +kernel)
  have hinvalid : s.hasValidAccessToken now = false := by
    rw [hasValidAccessToken, decide_eq_false (not_lt_of_ge hexpired), Bool.and_false]
  rw [runTask, hstart, Option.map_some, hinvalid, Bool.and_false]
  rfl

/-- **The service goes on until it is done.**  Whatever state a run has led to, with
    `n` fetches that have not been answered: without further fetches it takes at
    most `3 * n` steps, and as long as one has not been answered there is a step
    to take, whatever the reply. -/
theorem run_answers {accessToken refreshToken : Option String}
    {accessTokenExpirationDate : Option ℚ} {s t : SecureTokenService κ} {es fs : List (Event κ)}
    (hs : run (step expirationDate)
      (initWithRequestConfiguration accessToken accessTokenExpirationDate refreshToken) es =
        some s) (hown : Along (step expirationDate) Own s fs)
    (h : run (step expirationDate) s fs = some t) :
    fs.length ≤ 3 * s.taskQueue.tasks.length ∧
      (t.taskQueue.tasks ≠ [] → ∀ response now,
        ∃ e ∈ [.runTask now, .secureTokenReply response now],
          (t.step expirationDate e).isSome) := by
  have hwf : s.WellFormed := run_invariant_all (fun _ _ _ hs ht => hs.step ht) (wellFormed_init ..) hs
  have hwf' : t.WellFormed := run_invariant_all (fun _ _ _ hs ht => hs.step ht) hwf h
  have hlength := run_length_le (fun _ _ _ hown ht => stepsLeft_step hown ht) fs s t hown h
  refine ⟨?_, fun htasks response now => hwf'.exists_step htasks response now⟩
  exact Nat.le_trans (Nat.le_add_right _ _) (Nat.le_trans hlength hwf.stepsLeft_le)

end Runs

-- ============================================================================
-- A session
-- ============================================================================

/-- A service that has no access token yet. -/
def signedIn : SecureTokenService Nat := initWithRequestConfiguration none none (some "first")

/-- Two fetches: the first request is answered too late and made again, the second
    fetch finds the token in the cache. -/
def lateReply : List (Event Nat) :=
  [.fetchAccessToken false 1, .fetchAccessToken false 2, .runTask 0,
    .secureTokenReply (.ok ⟨"late", 100, none, by decide⟩) 3600,
    .secureTokenReply (.ok ⟨"new", 7200, some "next", by decide⟩) 3600, .runTask 3600]

/-- The dates that the two tokens carry. -/
def expirationDates (token : String) : Option ℚ :=
  if token = "late" then some 3000 else some 7200

theorem isSome_lateReply : (run (step expirationDates) signedIn lateReply).isSome = true := by
  decide +kernel

theorem run_fetches_lateReply :
    ∃ t, run (step expirationDates) signedIn lateReply = some t ∧
      emitted (step expirationDates)
          (fun s e => (s.called expirationDates e).map AccessTokenCall.callback) signedIn
          lateReply ++ t.taskQueue.tasks.map AccessTokenFetch.callback =
        signedIn.taskQueue.tasks.map AccessTokenFetch.callback ++ lateReply.flatMap fetched := by
  obtain ⟨t, h⟩ := Option.isSome_iff_exists.mp isSome_lateReply
  exact ⟨t, h, run_fetches h⟩

theorem run_accessToken_lateReply :
    ∃ t, run (step expirationDates) signedIn lateReply = some t ∧
      t.accessToken =
        (emitted (step expirationDates)
          (fun s e => (s.called expirationDates e).filterMap AccessTokenCall.token) signedIn
          lateReply).getLast?.or signedIn.accessToken := by
  obtain ⟨t, h⟩ := Option.isSome_iff_exists.mp isSome_lateReply
  exact ⟨t, h, run_accessToken h⟩

theorem run_requests_lateReply :
    ∃ t, run (step expirationDates) signedIn lateReply = some t ∧
      tally (step expirationDates) (requests expirationDates) signedIn lateReply +
        2 * t.taskQueue.waiting.length ≤ 2 * (lateReply.flatMap fetched).length := by
  obtain ⟨t, h⟩ := Option.isSome_iff_exists.mp isSome_lateReply
  exact ⟨t, h, run_requests_le h⟩

/-- From the two fetches on the service takes four steps, and is done. -/
theorem run_answers_lateReply :
    ∃ s t, run (step expirationDates) signedIn (lateReply.take 2) = some s ∧
      run (step expirationDates) s (lateReply.drop 2) = some t ∧
      (lateReply.drop 2).length ≤ 3 * s.taskQueue.tasks.length ∧
      (t.taskQueue.tasks ≠ [] → ∀ response now,
        ∃ e ∈ [.runTask now, .secureTokenReply response now],
          (t.step expirationDates e).isSome) := by
  obtain ⟨t, h⟩ := Option.isSome_iff_exists.mp isSome_lateReply
  have hsplit : run (step expirationDates) signedIn (lateReply.take 2 ++ lateReply.drop 2) =
      some t := h
  rw [run_append] at hsplit
  obtain ⟨s, hs, ht⟩ := Option.bind_eq_some_iff.mp hsplit
  have hown : Along (step expirationDates) Own s (lateReply.drop 2) :=
    ⟨rfl, fun _ _ => ⟨rfl, fun _ _ => ⟨rfl, fun _ _ => ⟨rfl, fun _ _ => trivial⟩⟩⟩⟩
  exact ⟨s, t, hs, ht, run_answers hs hown ht⟩

end SecureTokenService

end Spark.Firebase
