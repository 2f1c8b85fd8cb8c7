/-
  Spark.Firebase.AutoRefresh

  The automatic refresh of `FIRAuth`: once another Firebase service has asked for
  a token, the token of the current user is refreshed five minutes before it
  expires, and again after a minute and longer where that fails.

  The client is used as it is: an announcement that it makes schedules a task, a
  task that runs makes it fetch a token, and the callback of that fetch is the
  attempt.  So every run with refreshes is a run of the client (`run_client`).

  The observers of the application run on the main thread; here their blocks are
  steps of their own.

  A refresh that fails is made again after a minute, after another failure in two
  and so on, up to sixteen minutes (`run_backoff`); while the flag of a scheduled
  refresh is set there is one for the token of the current user
  (`run_scheduled`); and there are no more of them than what has set them off
  (`run_chains_le`).
-/

import Spark.Firebase.Announcements
import Spark.Firebase.Completions
import Mathlib.Tactic.NormNum

namespace Spark.Firebase

open Spark.Lib

-- ============================================================================
-- The client with refreshes
-- ============================================================================

def kMaxWaitTimeForBackoff : ℚ := 16 * 60

def kTokenRefreshHeadStart : ℚ := 5 * 60

/-- What the callback of a refresh captures.  `failures` is not in the source: it
    counts the attempts before this one that have failed in a row. -/
structure RefreshAttempt where
  uid : Option String
  delay : ℚ
  retry : Bool
  failures : Nat
  deriving DecidableEq

/-- A block of `dispatchAfterDelay:queue:task:` and when it was passed on;
    `failures` is that of its attempt. -/
structure RefreshTask where
  accessToken : String
  delay : ℚ
  retry : Bool
  scheduled : ℚ
  failures : Nat
  deriving DecidableEq

/-- The block runs at that time or later. -/
def RefreshTask.time (task : RefreshTask) : ℚ := task.scheduled + task.delay

/-- The completions `κ` are those of the app, the other ones those of attempts. -/
structure AutoRefresh (α κ : Type) where
  auth : Auth α (κ ⊕ RefreshAttempt)
  autoRefreshTokens : Bool := false
  autoRefreshScheduled : Bool := false
  isAppInBackground : Bool := false
  tasks : List RefreshTask := []

namespace Auth

variable {α κ κ' : Type}

/-- The ID of the current user. -/
def uid (a : Auth α κ) : Option String := (a.current.bind User.userID).map UserID.value

def Event.map (f : κ → κ') : Event α κ → Event α κ'
  | .completeSignIn accessToken date refreshToken anonymous completion =>
      .completeSignIn accessToken date refreshToken anonymous (f completion)
  | .getIDToken user forceRefresh completion => .getIDToken user forceRefresh (f completion)
  | .getToken forceRefresh completion => .getToken forceRefresh (f completion)
  | .reload user completion => .reload user (f completion)
  | .delete user completion => .delete user (f completion)
  | .runTask user now => .runTask user now
  | .secureTokenReply user response now faults => .secureTokenReply user response now faults
  | .reply serial answer faults => .reply serial answer faults
  | .signOut faults => .signOut faults
  | .setTenantID tenantID => .setTenantID tenantID
  | .protectedDataDidBecomeAvailable reference faults =>
      .protectedDataDidBecomeAvailable reference faults
  | .relaunch reference faults => .relaunch reference faults

/-- `getTokenForcingRefresh:withCallback:` is what turns refreshes on. -/
def Event.IsGetToken : Event α κ → Bool
  | .getToken .. => true
  | _ => false

end Auth

namespace AutoRefresh

variable {α κ : Type}

def scheduleAutoTokenRefreshWithDelay (s : AutoRefresh α κ) (delay : ℚ) (retry : Bool) (now : ℚ)
    (failures : Nat) : AutoRefresh α κ :=
  match s.auth.token with
  | none => s
  | some accessToken =>
      { s with
        autoRefreshScheduled := true
        tasks := s.tasks ++ [{ accessToken, delay, retry, scheduled := now, failures }] }

def scheduleAutoTokenRefresh (s : AutoRefresh α κ) (now : ℚ) : AutoRefresh α κ :=
  let accessTokenExpirationDate :=
    s.auth.current.bind fun user => user.tokenService.accessTokenExpirationDate
  let tokenExpirationInterval :=
    timeIntervalSinceNow accessTokenExpirationDate now - kTokenRefreshHeadStart
  s.scheduleAutoTokenRefreshWithDelay (max tokenExpirationInterval 0) false now 0

/-- The delay after an attempt that has failed. -/
def rescheduleDelay (attempt : RefreshAttempt) : ℚ :=
  if attempt.retry then min (attempt.delay * 2) kMaxWaitTimeForBackoff else 60

/-- The callback of an attempt. -/
def attempted (s : AutoRefresh α κ) (attempt : RefreshAttempt) (error : Option UserError)
    (now : ℚ) : AutoRefresh α κ :=
  if s.auth.uid.isSome ∧ s.auth.uid = attempt.uid then
    match error with
    | some _ =>
        s.scheduleAutoTokenRefreshWithDelay (rescheduleDelay attempt) true now
          (attempt.failures + 1)
    | none => s
  else s

def callback (now : ℚ) (s : AutoRefresh α κ) (call : UserCompletion (κ ⊕ RefreshAttempt)) :
    AutoRefresh α κ :=
  match call.completion with
  | .inl _ => s
  | .inr attempt => s.attempted attempt call.error now

/-- The announcement that the client has made, if it has made one, schedules a
    refresh. -/
def announced (s : AutoRefresh α κ) (auth : Auth α (κ ⊕ RefreshAttempt)) (now : ℚ) :
    AutoRefresh α κ :=
  if s.autoRefreshTokens = true ∧ s.auth.notifications.length < auth.notifications.length then
    { s with auth }.scheduleAutoTokenRefresh now
  else { s with auth }

/-- A step of the client; it announces before it calls its callback. -/
def proceed (s : AutoRefresh α κ) (auth : Auth α (κ ⊕ RefreshAttempt)) (now : ℚ) :
    AutoRefresh α κ :=
  (auth.completions.drop s.auth.completions.length).foldl (callback now) (s.announced auth now)

/-- The first part of `getTokenForcingRefresh:withCallback:`. -/
def enableAutoRefresh (s : AutoRefresh α κ) (now : ℚ) : AutoRefresh α κ :=
  if s.autoRefreshTokens then s
  else { s with autoRefreshTokens := true }.scheduleAutoTokenRefresh now

/-- The client fetches a token for an attempt. -/
def attempt (s : AutoRefresh α κ) (attempt : RefreshAttempt) : AutoRefresh α κ :=
  let fetched := s.auth.currentUser.bind fun u =>
    s.auth.internalGetToken u true (.getIDToken (.inr attempt))
  { s with auth := fetched.getD s.auth }

def runTask (s : AutoRefresh α κ) (task : RefreshTask) : AutoRefresh α κ :=
  if s.auth.token = some task.accessToken then
    let s := { s with autoRefreshScheduled := false }
    if s.isAppInBackground then s
    else
      s.attempt
        { uid := s.auth.uid, delay := task.delay, retry := task.retry, failures := task.failures }
  else s

def applicationDidBecomeActive (s : AutoRefresh α κ) (now : ℚ) : AutoRefresh α κ :=
  let s := { s with isAppInBackground := false }
  if s.autoRefreshScheduled then s else s.scheduleAutoTokenRefresh now

-- ============================================================================
-- Steps
-- ============================================================================

/-- `now` is what the clock reads when a refresh is scheduled. -/
inductive Event (α κ : Type)
  | auth (event : Auth.Event α κ) (now : ℚ)
  | runTask (i : Nat) (now : ℚ)
  | applicationDidBecomeActive (now : ℚ)
  | applicationDidEnterBackground

/-- A launch starts without refreshes; their observers are there once they have
    been turned on. -/
def step (expirationDate : String → Option ℚ) (s : AutoRefresh α κ) :
    Event α κ → Option (AutoRefresh α κ)
  | .auth (.relaunch reference faults) _ => some { auth := s.auth.launched reference faults }
  | .auth event now =>
      let s := if event.IsGetToken then s.enableAutoRefresh now else s
      (s.auth.step expirationDate (event.map .inl)).map fun auth => s.proceed auth now
  | .runTask i now =>
      (s.tasks[i]?).bind fun task =>
        if task.time ≤ now then some ({ s with tasks := s.tasks.eraseIdx i }.runTask task) else none
  | .applicationDidBecomeActive now =>
      some (if s.autoRefreshTokens then s.applicationDidBecomeActive now else s)
  | .applicationDidEnterBackground =>
      some (if s.autoRefreshTokens then { s with isAppInBackground := true } else s)

-- ============================================================================
-- What the operations change
-- ============================================================================

section Operations

variable (s : AutoRefresh α κ) (delay now : ℚ) (retry : Bool) (failures : Nat)

/-- A task is scheduled for the current token, if there is one. -/
theorem schedule_cases :
    (s.auth.token = none ∧ s.scheduleAutoTokenRefreshWithDelay delay retry now failures = s) ∨
      ∃ accessToken, s.auth.token = some accessToken ∧
        s.scheduleAutoTokenRefreshWithDelay delay retry now failures =
          { s with
            autoRefreshScheduled := true
            tasks := s.tasks ++ [{ accessToken, delay, retry, scheduled := now, failures }] } := by
  rw [scheduleAutoTokenRefreshWithDelay.eq_def]
  cases htoken : s.auth.token with
  | none => exact .inl ⟨rfl, rfl⟩
  | some accessToken => exact .inr ⟨accessToken, rfl, rfl⟩

/-- What only schedules refreshes leaves the client alone. -/
structure Schedules (s t : AutoRefresh α κ) : Prop where
  auth : t.auth = s.auth
  autoRefreshTokens : t.autoRefreshTokens = s.autoRefreshTokens
  isAppInBackground : t.isAppInBackground = s.isAppInBackground
  tasks : ∀ task ∈ s.tasks, task ∈ t.tasks
  scheduled : t.autoRefreshScheduled = true → s.autoRefreshScheduled = true ∨
    ∀ accessToken, s.auth.token = some accessToken →
      ∃ task ∈ t.tasks, task.accessToken = accessToken

variable {s}

theorem Schedules.refl (s : AutoRefresh α κ) : Schedules s s :=
  ⟨rfl, rfl, rfl, fun _ h => h, .inl⟩

theorem Schedules.trans {t u : AutoRefresh α κ} (h : Schedules s t) (h' : Schedules t u) :
    Schedules s u := by
  refine ⟨h'.auth.trans h.auth, h'.autoRefreshTokens.trans h.autoRefreshTokens,
    h'.isAppInBackground.trans h.isAppInBackground,
    fun task hmem => h'.tasks _ (h.tasks _ hmem), ?_⟩
  intro hflag
  rcases h'.scheduled hflag with hflag | hnew
  · rcases h.scheduled hflag with hflag | hnew
    · exact .inl hflag
    · refine .inr fun accessToken htoken => ?_
      obtain ⟨task, hmem, htask⟩ := hnew accessToken htoken
      exact ⟨task, h'.tasks task hmem, htask⟩
  · rw [h.auth] at hnew
    exact .inr hnew

/-- A refresh that has been asked for is scheduled. -/
theorem exists_task_schedule {accessToken : String} (htoken : s.auth.token = some accessToken) :
    ∃ task ∈ (s.scheduleAutoTokenRefreshWithDelay delay retry now failures).tasks,
      task.accessToken = accessToken := by
  rcases schedule_cases s delay now retry failures with ⟨hnone, -⟩ | ⟨token, hsome, h⟩
  · cases hnone.symm.trans htoken
  · obtain rfl := Option.some.inj (hsome.symm.trans htoken)
    rw [h]
    exact ⟨_, List.mem_append_right _ (List.mem_singleton_self _), rfl⟩

theorem schedules_schedule : Schedules s (s.scheduleAutoTokenRefreshWithDelay delay retry now failures) := by
  have hscheduled : ∀ token, s.auth.token = some token →
      ∃ task ∈ (s.scheduleAutoTokenRefreshWithDelay delay retry now failures).tasks,
        task.accessToken = token :=
    fun _ htoken => exists_task_schedule delay now retry failures htoken
  rcases schedule_cases s delay now retry failures with ⟨-, h⟩ | ⟨accessToken, htoken, h⟩
  · rw [h]
    exact .refl s
  · rw [h] at hscheduled ⊢
    exact ⟨rfl, rfl, rfl, fun task hmem => List.mem_append_left _ hmem, fun _ => .inr hscheduled⟩

theorem schedules_callback (call : UserCompletion (κ ⊕ RefreshAttempt)) :
    Schedules s (s.callback now call) := by
  rw [callback.eq_def]
  cases call.completion with
  | inl completion => exact .refl s
  | inr attempt =>
      dsimp only
      rw [attempted.eq_def]
      split
      · cases call.error with
        | none => exact .refl s
        | some error => exact schedules_schedule _ now true _
      · exact .refl s

end Operations

-- ============================================================================
-- What a step can do
-- ============================================================================

variable {expirationDate : String → Option ℚ}

/-- What the observers of the application hear. -/
def Event.Observed : Event α κ → Prop
  | .applicationDidBecomeActive _ => True
  | .applicationDidEnterBackground => True
  | _ => False

/-- The refreshes are turned on before the client fetches the token. -/
def prepared (s : AutoRefresh α κ) (event : Auth.Event α κ) (now : ℚ) : AutoRefresh α κ :=
  if event.IsGetToken then s.enableAutoRefresh now else s

inductive Transition (expirationDate : String → Option ℚ) (s : AutoRefresh α κ) :
    Event α κ → AutoRefresh α κ → Prop
  | launched {reference : Nat} {faults : KeychainFaults} {now : ℚ} :
      Transition expirationDate s (.auth (.relaunch reference faults) now)
        { auth := s.auth.launched reference faults }
  | proceeded {event : Auth.Event α κ} {now : ℚ} {auth : Auth α (κ ⊕ RefreshAttempt)}
      (hstays : ¬event.Relaunch) (h : s.auth.step expirationDate (event.map .inl) = some auth) :
      Transition expirationDate s (.auth event now) ((s.prepared event now).proceed auth now)
  | stale {i : Nat} {now : ℚ} {task : RefreshTask} (htask : s.tasks[i]? = some task)
      (htime : task.time ≤ now) (htoken : s.auth.token ≠ some task.accessToken) :
      Transition expirationDate s (.runTask i now) { s with tasks := s.tasks.eraseIdx i }
  | heldBack {i : Nat} {now : ℚ} {task : RefreshTask} (htask : s.tasks[i]? = some task)
      (htime : task.time ≤ now) (htoken : s.auth.token = some task.accessToken)
      (hbackground : s.isAppInBackground = true) :
      Transition expirationDate s (.runTask i now)
        { s with tasks := s.tasks.eraseIdx i, autoRefreshScheduled := false }
  | attempted {i : Nat} {now : ℚ} {task : RefreshTask} {auth : Auth α (κ ⊕ RefreshAttempt)}
      {u : Nat} (htask : s.tasks[i]? = some task) (htime : task.time ≤ now)
      (htoken : s.auth.token = some task.accessToken) (hforeground : s.isAppInBackground = false)
      (hcurrent : s.auth.currentUser = some u)
      (h : s.auth.internalGetToken u true
        (.getIDToken (.inr ⟨s.auth.uid, task.delay, task.retry, task.failures⟩)) = some auth) :
      Transition expirationDate s (.runTask i now)
        { s with auth, tasks := s.tasks.eraseIdx i, autoRefreshScheduled := false }
  | unobserved {e : Event α κ} (hobserved : e.Observed) (hoff : s.autoRefreshTokens = false) :
      Transition expirationDate s e s
  | becameActive {now : ℚ} (hon : s.autoRefreshTokens = true) :
      Transition expirationDate s (.applicationDidBecomeActive now)
        (s.applicationDidBecomeActive now)
  | enteredBackground (hon : s.autoRefreshTokens = true) :
      Transition expirationDate s .applicationDidEnterBackground { s with isAppInBackground := true }

theorem schedules_enableAutoRefresh {s : AutoRefresh α κ} {now : ℚ}
    (hoff : s.autoRefreshTokens = false) :
    Schedules { s with autoRefreshTokens := true } (s.enableAutoRefresh now) := by
  rw [enableAutoRefresh.eq_def, hoff]
  exact schedules_schedule _ now false 0

theorem auth_prepared (s : AutoRefresh α κ) (event : Auth.Event α κ) (now : ℚ) :
    (s.prepared event now).auth = s.auth := by
  rw [prepared]
  split
  · cases hoff : s.autoRefreshTokens with
    | false => exact (schedules_enableAutoRefresh hoff).auth
    | true =>
        rw [enableAutoRefresh.eq_def, hoff]
        rfl
  · rfl

/-- A user who has a token can be asked for another one. -/
theorem exists_attempt {s : AutoRefresh α κ} {accessToken : String}
    (h : s.auth.token = some accessToken) (attempt : RefreshAttempt) :
    ∃ u auth, s.auth.currentUser = some u ∧
      s.auth.internalGetToken u true (.getIDToken (.inr attempt)) = some auth ∧
      s.attempt attempt = { s with auth } := by
  obtain ⟨user, hcurrent, -⟩ := Option.bind_eq_some_iff.mp h
  obtain ⟨u, hu, huser⟩ := Option.bind_eq_some_iff.mp hcurrent
  refine ⟨u, _, hu, congrArg (Option.map _) huser, ?_⟩
  rw [AutoRefresh.attempt, hu]
  simp only [Option.bind_some, Auth.internalGetToken, huser, Option.map_some, Option.getD_some]

theorem step_cases {s t : AutoRefresh α κ} {e : Event α κ} (h : s.step expirationDate e = some t) :
    Transition expirationDate s e t := by
  unfold step at h
  split at h
  · obtain rfl := Option.some.inj h
    exact .launched
  · rename_i event now hne
    have hstays : ¬event.Relaunch := by
      intro hrelaunch
      cases event with
      | relaunch reference faults => exact hne reference faults rfl
      | _ => exact hrelaunch
    obtain ⟨auth, hauth, rfl⟩ := Option.map_eq_some_iff.mp h
    have hsame : (s.prepared event now).auth = s.auth := auth_prepared s event now
    rw [prepared] at hsame
    rw [hsame] at hauth
    exact .proceeded hstays hauth
  · rename_i i now
    obtain ⟨task, htask, h⟩ := Option.bind_eq_some_iff.mp h
    split at h
    · rename_i htime
      obtain rfl := Option.some.inj h
      rw [runTask]
      split
      · rename_i htoken
        dsimp only
        split
        · rename_i hbackground
          exact .heldBack htask htime htoken hbackground
        · rename_i hforeground
          obtain ⟨u, auth, hcurrent, hfetch, hattempt⟩ :=
            exists_attempt
              (s := { s with tasks := s.tasks.eraseIdx i, autoRefreshScheduled := false }) htoken
              ⟨s.auth.uid, task.delay, task.retry, task.failures⟩
          rw [hattempt]
          exact .attempted htask htime htoken (by simpa using hforeground) hcurrent hfetch
      · rename_i htoken
        exact .stale htask htime htoken
    · cases h
  · obtain rfl := Option.some.inj h
    split
    · rename_i hon
      exact .becameActive hon
    · rename_i hoff
      exact .unobserved trivial (by simpa using hoff)
  · obtain rfl := Option.some.inj h
    split
    · rename_i hon
      exact .enteredBackground hon
    · rename_i hoff
      exact .unobserved trivial (by simpa using hoff)

-- ============================================================================
-- The client below
-- ============================================================================

/-- The events of the client meet a condition. -/
def OnAuth (ok : Auth α (κ ⊕ RefreshAttempt) → Auth.Event α (κ ⊕ RefreshAttempt) → Prop)
    (s : AutoRefresh α κ) : Event α κ → Prop
  | .auth event _ => ok s.auth (event.map .inl)
  | _ => True

section

variable {ok ok' : Auth α (κ ⊕ RefreshAttempt) → Auth.Event α (κ ⊕ RefreshAttempt) → Prop}
  {s : AutoRefresh α κ} {e : Event α κ}

theorem onAuth_imp (himp : ∀ a d, ok a d → ok' a d) (h : s.OnAuth ok e) : s.OnAuth ok' e := by
  cases e with
  | auth event now => exact himp _ _ h
  | _ => trivial

theorem onAuth_and (h : s.OnAuth ok e) (h' : s.OnAuth ok' e) :
    s.OnAuth (fun a d => ok a d ∧ ok' a d) e := by
  cases e with
  | auth event now => exact ⟨h, h'⟩
  | _ => trivial

end

theorem schedules_callbacks (calls : List (UserCompletion (κ ⊕ RefreshAttempt)))
    (s : AutoRefresh α κ) (now : ℚ) : Schedules s (calls.foldl (callback now) s) :=
  List.foldlRecOn _ (callback now) (.refl _)
    fun _ ht call _ => ht.trans (schedules_callback now call)

theorem auth_proceed (s : AutoRefresh α κ) (auth : Auth α (κ ⊕ RefreshAttempt)) (now : ℚ) :
    (s.proceed auth now).auth = auth ∧
      Schedules (s.announced auth now) (s.proceed auth now) := by
  have hannounced : (s.announced auth now).auth = auth := by
    rw [announced]
    split
    · exact (schedules_schedule _ now false 0).auth
    · rfl
  have hcalled : Schedules (s.announced auth now) (s.proceed auth now) :=
    schedules_callbacks _ _ now
  exact ⟨hcalled.auth.trans hannounced, hcalled⟩

/-- The client does a step of its own, or nothing; the tokens it fetches for
    refreshes are its own doing. -/
theorem step_client {s t : AutoRefresh α κ} {e : Event α κ}
    (h : s.step expirationDate e = some t) :
    t.auth = s.auth ∨ ∃ d, s.auth.step expirationDate d = some t.auth ∧
      ((∃ event now, e = .auth event now ∧ d = event.map .inl) ∨
        ∃ u attempt, d = .getIDToken u true (.inr attempt)) := by
  cases step_cases h with
  | @launched reference faults now =>
      exact .inr ⟨.relaunch reference faults, rfl, .inl ⟨_, _, rfl, rfl⟩⟩
  | @proceeded event now auth hstays hauth =>
      refine .inr ⟨event.map .inl, ?_, .inl ⟨_, _, rfl, rfl⟩⟩
      rw [(auth_proceed _ auth now).1]
      exact hauth
  | @attempted i now task auth u htask htime htoken hforeground hcurrent hfetch =>
      exact .inr ⟨.getIDToken u true (.inr ⟨s.auth.uid, task.delay, task.retry, task.failures⟩),
        hfetch, .inr ⟨_, _, rfl⟩⟩
  | @becameActive now hon =>
      refine .inl ?_
      rw [applicationDidBecomeActive.eq_def]
      dsimp only
      split
      · rfl
      · exact (schedules_schedule _ now false 0).auth
  | _ => exact .inl rfl

/-- An invariant of the client is kept under refreshes. -/
theorem invariant_client
    {ok : Auth α (κ ⊕ RefreshAttempt) → Auth.Event α (κ ⊕ RefreshAttempt) → Prop}
    {Inv : Auth α (κ ⊕ RefreshAttempt) → Prop}
    (hfetch : ∀ a u attempt, ok a (.getIDToken u true (.inr attempt)))
    (hstep : ∀ a d b, Inv a → ok a d → a.step expirationDate d = some b → Inv b)
    {s t : AutoRefresh α κ} {e : Event α κ} (hs : Inv s.auth) (hok : s.OnAuth ok e)
    (h : s.step expirationDate e = some t) : Inv t.auth := by
  rcases step_client h with hsame | ⟨d, hd, ⟨event, now, rfl, rfl⟩ | ⟨u, attempt, rfl⟩⟩
  · rw [hsame]
    exact hs
  · exact hstep _ _ _ hs hok hd
  · exact hstep _ _ _ hs (hfetch _ _ _) hd

/-- **Refreshes are calls like any other.**  Every run with refreshes is a run of
    the client alone, under every condition that fetches of a token meet. -/
theorem run_client
    {ok : Auth α (κ ⊕ RefreshAttempt) → Auth.Event α (κ ⊕ RefreshAttempt) → Prop}
    (hfetch : ∀ a u attempt, ok a (.getIDToken u true (.inr attempt)))
    {es : List (Event α κ)} {s t : AutoRefresh α κ}
    (hok : Along (step expirationDate) (OnAuth ok) s es)
    (h : run (step expirationDate) s es = some t) :
    ∃ ds, Along (Auth.step expirationDate) ok s.auth ds ∧
      run (Auth.step expirationDate) s.auth ds = some t.auth := by
  refine run_simulated_along ?_ es s t hok h
  intro s e t hok ht
  rcases step_client ht with hsame | ⟨d, hd, hwhich⟩
  · exact ⟨[], trivial, congrArg some hsame.symm⟩
  · refine ⟨[d], ⟨?_, fun _ _ => trivial⟩, ?_⟩
    · rcases hwhich with ⟨event, now, rfl, rfl⟩ | ⟨u, attempt, rfl⟩
      · exact hok
      · exact hfetch _ _ _
    · rw [run_cons, hd]
      rfl

-- ============================================================================
-- Attempts under way
-- ============================================================================

/-- The attempts whose callbacks have not been called. -/
def inFlight (s : AutoRefresh α κ) : List RefreshAttempt :=
  s.auth.work.waiting.filterMap Sum.getRight?

/-- The attempts whose callbacks a step of the client has called. -/
def calledAttempts (s : AutoRefresh α κ) (auth : Auth α (κ ⊕ RefreshAttempt)) :
    List RefreshAttempt :=
  (auth.completions.drop s.auth.completions.length).filterMap fun call => call.completion.getRight?

theorem passed_map_inl (event : Auth.Event α κ) :
    (event.map (Sum.inl : κ → κ ⊕ RefreshAttempt)).passed.filterMap Sum.getRight? = [] := by
  cases event <;> rfl

theorem not_relaunch_map {event : Auth.Event α κ} (hstays : ¬event.Relaunch) :
    ¬(event.map (Sum.inl : κ → κ ⊕ RefreshAttempt)).Relaunch := by
  cases event with
  | relaunch => exact absurd trivial hstays
  | _ => exact fun h => h

/-- A step of the client calls the callbacks of attempts under way, and starts
    none. -/
theorem inFlight_client {s : AutoRefresh α κ} {event : Auth.Event α κ}
    {auth : Auth α (κ ⊕ RefreshAttempt)} (hwf : s.auth.work.WellFormed)
    (hstays : ¬event.Relaunch) (h : s.auth.step expirationDate (event.map .inl) = some auth) :
    (s.calledAttempts auth ++ inFlight { s with auth }).Perm s.inFlight := by
  have hperm := (Auth.called_step hwf (not_relaunch_map hstays) h).filterMap Sum.getRight?
  rw [List.filterMap_append, List.filterMap_append, passed_map_inl, List.append_nil,
    List.filterMap_map] at hperm
  exact hperm

theorem inFlight_launched (s : AutoRefresh α κ) (reference : Nat) (faults : KeychainFaults) :
    inFlight { auth := s.auth.launched reference faults } = [] ∧
      (s.auth.launched reference faults).work.WellFormed := by
  have hblank : (Work.blank s.auth.requests.issued s.auth.work.completed).WellFormed :=
    Work.wellFormed_blank _ _
  have hstep := Auth.work_launched (fun _ => none) s.auth reference faults
  obtain ⟨called, -, hperm⟩ := hstep.called hblank
  have hnil := List.append_eq_nil_iff.mp (List.Perm.eq_nil hperm)
  refine ⟨?_, hstep.wellFormed hblank⟩
  rw [inFlight, hnil.2]
  rfl

/-- The attempt that a task starts. -/
theorem inFlight_attempted {s : AutoRefresh α κ} {auth : Auth α (κ ⊕ RefreshAttempt)} {u : Nat}
    {attempt : RefreshAttempt} (hwf : s.auth.work.WellFormed)
    (h : s.auth.internalGetToken u true (.getIDToken (.inr attempt)) = some auth) :
    (inFlight { s with auth }).Perm (s.inFlight ++ [attempt]) ∧ auth.work.WellFormed := by
  have hstep : Work.Step (fun _ => none) s.auth.work [Sum.inr attempt] auth.work :=
    Auth.work_internalGetToken h
  have hnone : auth.work.completed = s.auth.work.completed := by
    obtain ⟨user, -, rfl⟩ := Option.map_eq_some_iff.mp h
    rfl
  obtain ⟨called, hcalled, hperm⟩ := hstep.called hwf
  obtain rfl : called = [] := List.self_eq_append_right.mp (hnone.symm.trans hcalled)
  have hattempts := hperm.filterMap Sum.getRight?
  rw [List.nil_append, List.filterMap_append] at hattempts
  exact ⟨hattempts, hstep.wellFormed hwf⟩

-- ============================================================================
-- Delays
-- ============================================================================

/-- A first refresh may be due at once; the delays after failures are those of the
    exponential back-off. -/
def Delayed (delay : ℚ) (retry : Bool) : Nat → Prop
  | 0 => retry = false ∧ 0 ≤ delay
  | failures + 1 => retry = true ∧ delay = min (60 * 2 ^ failures) kMaxWaitTimeForBackoff

/-- The delay doubles until it has reached the maximum. -/
theorem delayed_rescheduleDelay {attempt : RefreshAttempt}
    (h : Delayed attempt.delay attempt.retry attempt.failures) :
    Delayed (rescheduleDelay attempt) true (attempt.failures + 1) := by
  refine ⟨rfl, ?_⟩
  rw [rescheduleDelay]
  cases hfailures : attempt.failures with
  | zero =>
      rw [hfailures] at h
      rw [h.1]
      norm_num [kMaxWaitTimeForBackoff]
  | succ failures =>
      rw [hfailures] at h
      obtain ⟨hretry, hdelay⟩ := h
      have hmax : (0 : ℚ) ≤ kMaxWaitTimeForBackoff := by norm_num [kMaxWaitTimeForBackoff]
      rw [if_pos hretry, hdelay, pow_succ, ← mul_assoc,
        min_mul_of_nonneg _ _ (by norm_num : (0 : ℚ) ≤ 2), min_assoc,
        min_eq_right (le_mul_of_one_le_right hmax (by norm_num : (1 : ℚ) ≤ 2))]

theorem delays_schedule {s : AutoRefresh α κ} {delay : ℚ} {retry : Bool} {failures : Nat}
    (hs : ∀ task ∈ s.tasks, Delayed task.delay task.retry task.failures) (h : Delayed delay retry failures)
    (now : ℚ) :
    ∀ task ∈ (s.scheduleAutoTokenRefreshWithDelay delay retry now failures).tasks,
      Delayed task.delay task.retry task.failures := by
  rcases schedule_cases s delay now retry failures with ⟨-, heq⟩ | ⟨accessToken, -, heq⟩
  · rw [heq]
    exact hs
  · rw [heq]
    intro task hmem
    rcases List.mem_append.mp hmem with hmem | hmem
    · exact hs task hmem
    · obtain rfl := List.mem_singleton.mp hmem
      exact h

theorem delays_scheduleAutoTokenRefresh {s : AutoRefresh α κ}
    (hs : ∀ task ∈ s.tasks, Delayed task.delay task.retry task.failures) (now : ℚ) :
    ∀ task ∈ (s.scheduleAutoTokenRefresh now).tasks, Delayed task.delay task.retry task.failures :=
  delays_schedule hs (show Delayed _ false 0 from ⟨rfl, le_max_right _ _⟩) now

/-- The callbacks of attempts. -/
theorem delays_callbacks {calls : List (UserCompletion (κ ⊕ RefreshAttempt))} (now : ℚ)
    (hcalls : ∀ attempt ∈ calls.filterMap fun call => call.completion.getRight?,
      Delayed attempt.delay attempt.retry attempt.failures) (s : AutoRefresh α κ)
    (hs : ∀ task ∈ s.tasks, Delayed task.delay task.retry task.failures) :
    ∀ task ∈ (calls.foldl (callback now) s).tasks, Delayed task.delay task.retry task.failures := by
  induction calls generalizing s with
  | nil => exact hs
  | cons call calls ih =>
      rw [List.foldl_cons]
      refine ih ?_ _ ?_
      · intro attempt hmem
        refine hcalls attempt ?_
        rw [List.filterMap_cons]
        split
        · exact hmem
        · exact List.mem_cons_of_mem _ hmem
      · rw [callback.eq_def]
        cases hcompletion : call.completion with
        | inl completion => exact hs
        | inr attempt =>
            have hattempt : Delayed attempt.delay attempt.retry attempt.failures := by
              refine hcalls attempt ?_
              rw [List.filterMap_cons, hcompletion]
              exact List.mem_cons_self
            dsimp only
            rw [attempted.eq_def]
            split
            · cases call.error with
              | none => exact hs
              | some error => exact delays_schedule hs (delayed_rescheduleDelay hattempt) now
            · exact hs

-- ============================================================================
-- What the state keeps to
-- ============================================================================

/-- `idle`: nothing is refreshed before refreshes have been turned on. -/
structure WellFormed (s : AutoRefresh α κ) : Prop where
  work : s.auth.work.WellFormed
  idle : s.autoRefreshTokens = false →
    s.autoRefreshScheduled = false ∧ s.tasks = [] ∧ s.inFlight = []
  tasks : ∀ task ∈ s.tasks, Delayed task.delay task.retry task.failures
  attempts : ∀ attempt ∈ s.inFlight, Delayed attempt.delay attempt.retry attempt.failures

theorem tasks_prepared {s : AutoRefresh α κ} (event : Auth.Event α κ) (now : ℚ)
    (hs : ∀ task ∈ s.tasks, Delayed task.delay task.retry task.failures) :
    ∀ task ∈ (s.prepared event now).tasks, Delayed task.delay task.retry task.failures := by
  rw [prepared]
  split
  · rw [enableAutoRefresh]
    split
    · exact hs
    · exact delays_scheduleAutoTokenRefresh (s := { s with autoRefreshTokens := true }) hs now
  · exact hs

theorem tasks_announced {s : AutoRefresh α κ} (auth : Auth α (κ ⊕ RefreshAttempt)) (now : ℚ)
    (hs : ∀ task ∈ s.tasks, Delayed task.delay task.retry task.failures) :
    ∀ task ∈ (s.announced auth now).tasks, Delayed task.delay task.retry task.failures := by
  rw [announced]
  split
  · exact delays_scheduleAutoTokenRefresh (s := { s with auth }) hs now
  · exact hs

theorem autoRefreshTokens_announced (s : AutoRefresh α κ) (auth : Auth α (κ ⊕ RefreshAttempt))
    (now : ℚ) : (s.announced auth now).autoRefreshTokens = s.autoRefreshTokens := by
  rw [announced]
  split
  · exact (schedules_schedule _ now false 0).autoRefreshTokens
  · rfl

/-- Where refreshes are off, a step of the client is all that happens. -/
theorem proceed_off {s : AutoRefresh α κ} {auth : Auth α (κ ⊕ RefreshAttempt)} {now : ℚ}
    (hoff : s.autoRefreshTokens = false) (hcalled : s.calledAttempts auth = []) :
    s.proceed auth now = { s with auth } := by
  have hnone : ∀ (calls : List (UserCompletion (κ ⊕ RefreshAttempt))) (t : AutoRefresh α κ),
      (calls.filterMap fun call => call.completion.getRight?) = [] →
      calls.foldl (callback now) t = t := by
    intro calls
    induction calls with
    | nil => exact fun _ _ => rfl
    | cons call calls ih =>
        intro t hcalls
        rw [List.filterMap_cons] at hcalls
        cases hcompletion : call.completion with
        | inl completion =>
            rw [hcompletion] at hcalls
            rw [List.foldl_cons, callback.eq_def, hcompletion]
            exact ih t hcalls
        | inr attempt =>
            rw [hcompletion] at hcalls
            cases hcalls
  have hannounced : s.announced auth now = { s with auth } := by
    rw [announced, if_neg]
    rw [hoff]
    exact fun h => Bool.false_ne_true h.1
  rw [proceed, hannounced]
  exact hnone _ _ hcalled

theorem prepared_off {s : AutoRefresh α κ} {event : Auth.Event α κ} {now : ℚ}
    (hoff : (s.prepared event now).autoRefreshTokens = false) :
    s.prepared event now = s ∧ s.autoRefreshTokens = false := by
  rw [prepared] at hoff ⊢
  split at hoff
  · cases hs : s.autoRefreshTokens with
    | false =>
        rw [(schedules_enableAutoRefresh hs).autoRefreshTokens] at hoff
        cases hoff
    | true =>
        rw [enableAutoRefresh, hs, if_pos rfl, hs] at hoff
        cases hoff
  · exact ⟨if_neg (by assumption), hoff⟩

theorem Transition.wellFormed {s t : AutoRefresh α κ} {e : Event α κ}
    (h : Transition expirationDate s e t) (hs : s.WellFormed) : t.WellFormed := by
  have herase : ∀ i : Nat, ∀ task ∈ s.tasks.eraseIdx i, Delayed task.delay task.retry task.failures :=
    fun i task hmem => hs.tasks task (List.mem_of_mem_eraseIdx hmem)
  have hnot : ∀ {i : Nat} {task : RefreshTask} {P : Prop}, s.tasks[i]? = some task →
      s.autoRefreshTokens = false → P := by
    intro i task P htask hoff
    rw [(hs.idle hoff).2.1] at htask
    cases htask
  cases h with
  | @launched reference faults now =>
      obtain ⟨hnil, hwork⟩ := inFlight_launched s reference faults
      refine ⟨hwork, fun _ => ⟨rfl, rfl, hnil⟩, fun _ hmem => absurd hmem List.not_mem_nil, ?_⟩
      rw [hnil]
      exact fun _ hmem => absurd hmem List.not_mem_nil
  | @proceeded event now auth hstays hauth =>
      have hperm := inFlight_client hs.work hstays hauth
      have hsame := auth_prepared s event now
      have hauth' := auth_proceed (s.prepared event now) auth now
      have hcalled : (s.prepared event now).calledAttempts auth = s.calledAttempts auth := by
        rw [calledAttempts, calledAttempts, hsame]
      have hinFlight : ((s.prepared event now).proceed auth now).inFlight =
          inFlight { s with auth } := by
        rw [inFlight, hauth'.1]
        rfl
      have hdelays : ∀ attempt ∈ s.calledAttempts auth ++ inFlight { s with auth },
          Delayed attempt.delay attempt.retry attempt.failures :=
        fun attempt hmem => hs.attempts attempt (hperm.mem_iff.mp hmem)
      constructor
      · rw [hauth'.1]
        exact (Auth.work_step (not_relaunch_map hstays) hauth).wellFormed hs.work
      · intro hoff
        have hannounced : (s.prepared event now).autoRefreshTokens = false := by
          rw [hauth'.2.autoRefreshTokens, autoRefreshTokens_announced] at hoff
          exact hoff
        obtain ⟨hprepared, hoff'⟩ := prepared_off hannounced
        obtain ⟨hflag, htasks, hnone⟩ := hs.idle hoff'
        rw [hnone] at hperm
        obtain ⟨hnil, hnil'⟩ := List.append_eq_nil_iff.mp hperm.eq_nil
        rw [hprepared, proceed_off hoff' hnil]
        exact ⟨hflag, htasks, hnil'⟩
      · refine delays_callbacks now ?_ _ (tasks_announced auth now (tasks_prepared event now hs.tasks))
        intro attempt hmem
        have hmem : attempt ∈ (s.prepared event now).calledAttempts auth := hmem
        rw [hcalled] at hmem
        exact hdelays attempt (List.mem_append_left _ hmem)
      · rw [hinFlight]
        exact fun attempt hmem => hdelays attempt (List.mem_append_right _ hmem)
  | stale htask => exact ⟨hs.work, hnot htask, herase _, hs.attempts⟩
  | heldBack htask => exact ⟨hs.work, hnot htask, herase _, hs.attempts⟩
  | attempted htask htime htoken hforeground hcurrent hfetch =>
      obtain ⟨hperm, hwork⟩ := inFlight_attempted hs.work hfetch
      refine ⟨hwork, hnot htask, herase _, ?_⟩
      intro attempt hmem
      rcases List.mem_append.mp (hperm.mem_iff.mp hmem) with hmem | hmem
      · exact hs.attempts attempt hmem
      · obtain rfl := List.mem_singleton.mp hmem
        exact hs.tasks _ (List.mem_of_getElem? htask)
  | unobserved => exact hs
  | @becameActive now hon =>
      rw [applicationDidBecomeActive.eq_def]
      dsimp only
      split
      · exact ⟨hs.work, hs.idle, hs.tasks, hs.attempts⟩
      · have hsame : Schedules { s with isAppInBackground := false }
            (scheduleAutoTokenRefresh { s with isAppInBackground := false } now) :=
          schedules_schedule _ now false 0
        refine ⟨?_, ?_, delays_scheduleAutoTokenRefresh
          (s := { s with isAppInBackground := false }) hs.tasks now, ?_⟩
        · rw [hsame.auth]
          exact hs.work
        · intro hoff
          rw [hsame.autoRefreshTokens] at hoff
          cases hon.symm.trans hoff
        · rw [inFlight, hsame.auth]
          exact hs.attempts
  | enteredBackground hon => exact ⟨hs.work, hs.idle, hs.tasks, hs.attempts⟩

-- ============================================================================
-- Runs
-- ============================================================================

/-- The app before its first launch. -/
def installed (i : Installation α) : AutoRefresh α κ where
  auth := Auth.installed i

theorem wellFormed_installed (i : Installation α) : (installed i : AutoRefresh α κ).WellFormed :=
  ⟨Auth.wellFormed_installed i, fun _ => ⟨rfl, rfl, rfl⟩,
    fun _ hmem => absurd hmem List.not_mem_nil, fun _ hmem => absurd hmem List.not_mem_nil⟩

theorem wellFormed_step (s : AutoRefresh α κ) (e : Event α κ) (t : AutoRefresh α κ)
    (hs : s.WellFormed) (h : s.step expirationDate e = some t) : t.WellFormed :=
  (step_cases h).wellFormed hs

/-- Another service has asked for a token since the last launch. -/
def asked (es : List (Event α κ)) : Bool :=
  es.foldl (fun asked e =>
    match e with
    | .auth (.relaunch ..) _ => false
    | .auth event _ => asked || event.IsGetToken
    | _ => asked) false

theorem autoRefreshTokens_prepared (s : AutoRefresh α κ) (event : Auth.Event α κ) (now : ℚ) :
    (s.prepared event now).autoRefreshTokens = (s.autoRefreshTokens || event.IsGetToken) := by
  rw [prepared]
  cases hget : event.IsGetToken with
  | false => exact (Bool.or_false _).symm
  | true =>
      rw [Bool.or_true, if_pos rfl]
      cases hs : s.autoRefreshTokens with
      | false => exact (schedules_enableAutoRefresh hs).autoRefreshTokens
      | true =>
          rw [enableAutoRefresh, hs]
          exact hs

/-- Refreshes are on if another service has asked for a token. -/
theorem run_autoRefreshTokens {i : Installation α} {es : List (Event α κ)} {t : AutoRefresh α κ}
    (h : run (step expirationDate) (installed i) es = some t) : t.autoRefreshTokens = asked es := by
  refine run_refines (R := fun s asked => s.autoRefreshTokens = asked) ?_ es _ t false
    (along_true _ _ es) rfl h
  rintro s e t _ - rfl ht
  cases step_cases ht with
  | launched => rfl
  | @proceeded event now auth hstays hauth =>
      obtain ⟨-, hcalled⟩ := auth_proceed (s.prepared event now) auth now
      rw [hcalled.autoRefreshTokens, autoRefreshTokens_announced, autoRefreshTokens_prepared]
      cases event with
      | relaunch => exact absurd trivial hstays
      | _ => rfl
  | @becameActive now hon =>
      rw [applicationDidBecomeActive.eq_def]
      dsimp only
      split
      · rfl
      · exact (schedules_schedule _ now false 0).autoRefreshTokens
  | @unobserved e hobserved hoff =>
      cases e with
      | auth event now => exact hobserved.elim
      | _ => rfl
  | _ => rfl

/-- **Exponential back-off.**  In every history of an installation a refresh whose
    attempts have failed some number of times in a row waits for a minute that
    has been doubled after every failure but the first, and sixteen minutes at
    most; refreshes are on if another service has asked for a token since the last
    launch, and nothing is refreshed before that. -/
theorem run_backoff {i : Installation α} {es : List (Event α κ)} {t : AutoRefresh α κ}
    (h : run (step expirationDate) (installed i) es = some t) :
    (∀ task ∈ t.tasks, (task.retry = true ↔ 0 < task.failures) ∧ (task.retry = true →
        task.delay = min (60 * 2 ^ (task.failures - 1)) kMaxWaitTimeForBackoff)) ∧
      (t.autoRefreshTokens = asked es) ∧
      (t.autoRefreshTokens = false → t.tasks = [] ∧ t.inFlight = []) := by
  have hwf : t.WellFormed := run_invariant_all wellFormed_step (wellFormed_installed i) h
  refine ⟨fun task hmem => ?_, run_autoRefreshTokens h, fun hoff => (hwf.idle hoff).2⟩
  have hdelayed := hwf.tasks task hmem
  cases hfailures : task.failures with
  | zero =>
      rw [hfailures] at hdelayed
      rw [hdelayed.1]
      exact ⟨by simp, fun hretry => nomatch hretry⟩
  | succ failures =>
      rw [hfailures] at hdelayed
      exact ⟨⟨fun _ => Nat.succ_pos _, fun _ => hdelayed.1⟩, fun _ => hdelayed.2⟩

-- ============================================================================
-- The flag
-- ============================================================================

/-- What `_autoRefreshScheduled` says: a refresh of the current token is scheduled. -/
def Flagged (s : AutoRefresh α κ) : Prop :=
  s.autoRefreshScheduled = true → ∀ accessToken, s.auth.token = some accessToken →
    ∃ task ∈ s.tasks, task.accessToken = accessToken

theorem Schedules.flagged {s t : AutoRefresh α κ} (h : Schedules s t) (hs : s.Flagged) :
    t.Flagged := by
  intro hflag accessToken htoken
  rw [h.auth] at htoken
  rcases h.scheduled hflag with hflag | hnew
  · obtain ⟨task, hmem, htask⟩ := hs hflag accessToken htoken
    exact ⟨task, h.tasks task hmem, htask⟩
  · exact hnew accessToken htoken

/-- A schedule that has been asked for leaves the flag right, whatever it was. -/
theorem flagged_schedule (s : AutoRefresh α κ) (delay now : ℚ) (retry : Bool) (failures : Nat) :
    (s.scheduleAutoTokenRefreshWithDelay delay retry now failures).Flagged := by
  intro _ accessToken htoken
  rw [(schedules_schedule delay now retry failures).auth] at htoken
  exact exists_task_schedule delay now retry failures htoken

/-- A task for another token can go. -/
theorem exists_task_eraseIdx {s : AutoRefresh α κ} {i : Nat} {task : RefreshTask}
    {accessToken : String} (htask : s.tasks[i]? = some task) (hne : task.accessToken ≠ accessToken)
    (h : ∃ task ∈ s.tasks, task.accessToken = accessToken) :
    ∃ task ∈ s.tasks.eraseIdx i, task.accessToken = accessToken := by
  obtain ⟨task', hmem, rfl⟩ := h
  obtain ⟨j, hj⟩ := List.mem_iff_getElem?.mp hmem
  have hij : j ≠ i := by
    rintro rfl
    obtain rfl := Option.some.inj (hj.symm.trans htask)
    exact hne rfl
  exact ⟨task', List.mem_eraseIdx_iff_getElem?.mpr ⟨j, hij, hj⟩, rfl⟩

/-- A token that is not announced is the old one. -/
theorem token_of_quiet {s : AutoRefresh α κ} {d : Auth.Event α (κ ⊕ RefreshAttempt)}
    {auth : Auth α (κ ⊕ RefreshAttempt)} (hstays : ¬d.Relaunch)
    (h : s.auth.step expirationDate d = some auth) (hbefore : s.auth.Notified)
    (hafter : auth.Notified)
    (hquiet : ¬s.auth.notifications.length < auth.notifications.length) :
    auth.token = s.auth.token := by
  have hnotifications := Auth.announces_step hstays h
  rw [Auth.Announces] at hnotifications
  by_cases hsame : s.auth.lastNotifiedUserToken = auth.lastNotifiedUserToken
  · rw [← hafter.token, ← hsame, hbefore.token]
  · rw [if_neg hsame] at hnotifications
    refine absurd ?_ hquiet
    rw [hnotifications, List.length_append]
    exact Nat.lt_succ_self _

theorem Transition.flagged {s t : AutoRefresh α κ} {e : Event α κ}
    (h : Transition expirationDate s e t) (hs : s.Flagged) (hwf : s.WellFormed)
    (hbefore : s.auth.Notified) (hafter : t.auth.Notified) : t.Flagged := by
  cases h with
  | launched => exact fun hflag => nomatch hflag
  | @proceeded event now auth hstays hauth =>
      have hsame := auth_prepared s event now
      obtain ⟨hproceed, hcalled⟩ := auth_proceed (s.prepared event now) auth now
      have hprepared : (s.prepared event now).Flagged := by
        rw [prepared]
        split
        · cases hoff : s.autoRefreshTokens with
          | false =>
              rw [enableAutoRefresh, hoff]
              exact flagged_schedule _ _ now false 0
          | true =>
              rw [enableAutoRefresh, hoff]
              exact hs
        · exact hs
      refine hcalled.flagged ?_
      rw [announced]
      split
      · exact flagged_schedule _ _ now false 0
      · rename_i hquiet
        rw [hproceed] at hafter
        intro hflag accessToken htoken
        have hon : (s.prepared event now).autoRefreshTokens = true := by
          by_contra hoff
          obtain ⟨heq, hoff⟩ := prepared_off (Bool.not_eq_true _ ▸ hoff)
          rw [heq, (hwf.idle hoff).1] at hflag
          cases hflag
        have htoken' : s.auth.token = some accessToken := by
          have hquiet : ¬s.auth.notifications.length < auth.notifications.length := by
            rw [hsame] at hquiet
            exact fun hlt => hquiet ⟨hon, hlt⟩
          rw [← token_of_quiet (not_relaunch_map hstays) hauth hbefore hafter hquiet]
          exact htoken
        rw [← hsame] at htoken'
        exact hprepared hflag accessToken htoken'
  | stale htask htime htoken =>
      intro hflag accessToken hcurrent
      refine exists_task_eraseIdx htask ?_ (hs hflag accessToken hcurrent)
      rintro rfl
      exact htoken hcurrent
  | heldBack => exact fun hflag => nomatch hflag
  | attempted => exact fun hflag => nomatch hflag
  | unobserved => exact hs
  | @becameActive now hon =>
      rw [applicationDidBecomeActive.eq_def]
      dsimp only
      split
      · exact hs
      · exact flagged_schedule _ _ now false 0
  | enteredBackground => exact hs

/-- The state of the client, and the flag. -/
structure Right (s : AutoRefresh α κ) : Prop where
  wellFormed : s.WellFormed
  notified : s.auth.Notified
  flagged : s.Flagged

theorem Right.step (s : AutoRefresh α κ) (e : Event α κ) (t : AutoRefresh α κ) (hs : s.Right)
    (hsaves : s.OnAuth Auth.SavesTokens e) (h : s.step expirationDate e = some t) : t.Right := by
  have hnotified : t.auth.Notified := invariant_client (fun _ _ _ => trivial)
    (fun _ _ _ ha hsaves hd => ha.step hsaves hd) hs.notified hsaves h
  exact ⟨wellFormed_step s e t hs.wellFormed h, hnotified,
    (step_cases h).flagged hs.flagged hs.wellFormed hs.notified hnotified⟩

theorem right_installed (i : Installation α) : (installed i : AutoRefresh α κ).Right :=
  ⟨wellFormed_installed i, Auth.notified_installed i, fun hflag => nomatch hflag⟩

/-- **The flag is right.**  After any run of an installation in which the new tokens
    of the current user can be saved, whatever is refreshed, signed in and out,
    late or in the background: while `_autoRefreshScheduled` is set a refresh of
    the current user's token is scheduled.  So a task that finds another token may
    leave the flag alone. -/
theorem run_scheduled {i : Installation α} {es : List (Event α κ)} {t : AutoRefresh α κ}
    (hsaves : Along (step expirationDate) (OnAuth Auth.SavesTokens) (installed i) es)
    (h : run (step expirationDate) (installed i) es = some t)
    (hscheduled : t.autoRefreshScheduled = true) {accessToken : String}
    (htoken : t.auth.token = some accessToken) :
    ∃ task ∈ t.tasks, task.accessToken = accessToken :=
  (run_invariant Right.step es _ t (right_installed i) hsaves h).flagged hscheduled accessToken
    htoken

-- ============================================================================
-- Chains
-- ============================================================================

/-- The refreshes that are scheduled or under way. -/
def chains (s : AutoRefresh α κ) : Nat := s.tasks.length + s.inFlight.length

/-- What sets off a refresh: refreshes are turned on, a token is announced, the app
    becomes active. -/
def stimuli (expirationDate : String → Option ℚ) (s : AutoRefresh α κ) : Event α κ → Nat
  | .auth event _ =>
      (if event.IsGetToken = true ∧ s.autoRefreshTokens = false then 1 else 0) +
        ((s.auth.step expirationDate (event.map .inl)).map fun auth =>
          auth.notifications.length - s.auth.notifications.length).getD 0
  | .applicationDidBecomeActive _ => 1
  | _ => 0

theorem length_schedule_le (s : AutoRefresh α κ) (delay now : ℚ) (retry : Bool)
    (failures : Nat) :
    (s.scheduleAutoTokenRefreshWithDelay delay retry now failures).tasks.length ≤ s.tasks.length + 1 := by
  rcases schedule_cases s delay now retry failures with ⟨-, h⟩ | ⟨accessToken, -, h⟩
  · rw [h]
    exact Nat.le_succ _
  · rw [h, List.length_append]
    exact Nat.le_refl _

theorem length_scheduleAutoTokenRefresh_le (s : AutoRefresh α κ) (now : ℚ) :
    (s.scheduleAutoTokenRefresh now).tasks.length ≤ s.tasks.length + 1 :=
  length_schedule_le s _ now false 0

/-- An attempt that has been called schedules one task at most. -/
theorem length_callbacks_le (calls : List (UserCompletion (κ ⊕ RefreshAttempt))) (now : ℚ)
    (s : AutoRefresh α κ) :
    (calls.foldl (callback now) s).tasks.length ≤
      s.tasks.length + (calls.filterMap fun call => call.completion.getRight?).length := by
  induction calls generalizing s with
  | nil => exact Nat.le_refl _
  | cons call calls ih =>
      have hrest := ih (s.callback now call)
      rw [List.foldl_cons, List.filterMap_cons]
      cases hcompletion : call.completion with
      | inl completion =>
          have hsame : s.callback now call = s := by rw [callback.eq_def, hcompletion]
          rw [hsame] at hrest ⊢
          exact hrest
      | inr attempt =>
          have hone : (s.callback now call).tasks.length ≤ s.tasks.length + 1 := by
            rw [callback.eq_def, hcompletion]
            dsimp only
            rw [attempted.eq_def]
            split
            · cases call.error with
              | none => exact Nat.le_succ _
              | some error => exact length_schedule_le s _ now true _
            · exact Nat.le_succ _
          simp only [Sum.getRight?_inr, List.length_cons]
          omega

theorem chains_step {s t : AutoRefresh α κ} {e : Event α κ} (hwf : s.WellFormed)
    (h : s.step expirationDate e = some t) :
    t.chains ≤ s.chains + s.stimuli expirationDate e := by
  have herase : ∀ {i : Nat} {task : RefreshTask}, s.tasks[i]? = some task →
      (s.tasks.eraseIdx i).length + 1 = s.tasks.length := by
    intro i task htask
    have hlt := (List.getElem?_eq_some_iff.mp htask).1
    rw [List.length_eraseIdx_of_lt hlt]
    omega
  cases step_cases h with
  | @launched reference faults now =>
      have hnil := (inFlight_launched s reference faults).1
      rw [chains, hnil]
      exact Nat.zero_le _
  | @proceeded event now auth hstays hauth =>
      have hperm := (inFlight_client hwf.work hstays hauth).length_eq
      have hsame := auth_prepared s event now
      have hprepared : (s.prepared event now).tasks.length ≤ s.tasks.length +
          if event.IsGetToken = true ∧ s.autoRefreshTokens = false then 1 else 0 := by
        rw [prepared]
        split
        · rename_i hget
          rw [enableAutoRefresh]
          split
          · exact Nat.le_add_right _ _
          · rename_i hoff
            rw [if_pos ⟨hget, by simpa using hoff⟩]
            exact length_scheduleAutoTokenRefresh_le { s with autoRefreshTokens := true } now
        · exact Nat.le_add_right _ _
      have hannounced : ((s.prepared event now).announced auth now).tasks.length ≤
          (s.prepared event now).tasks.length +
            (auth.notifications.length - s.auth.notifications.length) := by
        rw [announced, hsame]
        split
        · rename_i hposted
          have hone := length_scheduleAutoTokenRefresh_le { s.prepared event now with auth } now
          have hlt := hposted.2
          exact Nat.le_trans hone (by dsimp only; omega)
        · exact Nat.le_add_right _ _
      have hcalled := length_callbacks_le (auth.completions.drop s.auth.completions.length) now
        ((s.prepared event now).announced auth now)
      have hproceed : ((s.prepared event now).proceed auth now).tasks.length ≤
          ((s.prepared event now).announced auth now).tasks.length +
            (s.calledAttempts auth).length := by
        rw [proceed, hsame]
        exact hcalled
      have hinFlight : ((s.prepared event now).proceed auth now).inFlight =
          inFlight { s with auth } := by
        rw [inFlight, (auth_proceed (s.prepared event now) auth now).1]
        rfl
      rw [List.length_append] at hperm
      rw [chains, chains, stimuli, hauth, hinFlight, Option.map_some, Option.getD_some]
      omega
  | stale htask =>
      have hlength := herase htask
      simp only [chains, inFlight]
      omega
  | heldBack htask =>
      have hlength := herase htask
      simp only [chains, inFlight]
      omega
  | @attempted i now task auth u htask htime htoken hforeground hcurrent hfetch =>
      have hlength := herase htask
      have hperm := (inFlight_attempted hwf.work hfetch).1.length_eq
      rw [List.length_append, List.length_singleton] at hperm
      have hinFlight : inFlight { s with
          auth, tasks := s.tasks.eraseIdx i, autoRefreshScheduled := false } =
            inFlight { s with auth } := rfl
      rw [chains, chains, hinFlight]
      dsimp only
      omega
  | unobserved => exact Nat.le_add_right _ _
  | @becameActive now hon =>
      rw [applicationDidBecomeActive.eq_def]
      dsimp only
      split
      · exact Nat.le_add_right _ _
      · have hone := length_scheduleAutoTokenRefresh_le { s with isAppInBackground := false } now
        have hinFlight : (scheduleAutoTokenRefresh
            { s with isAppInBackground := false } now).inFlight = s.inFlight := by
          rw [inFlight, scheduleAutoTokenRefresh, (schedules_schedule _ now false 0).auth]
          rfl
        rw [chains, hinFlight, chains, stimuli]
        exact Nat.le_trans (Nat.add_le_add_right hone _) (by dsimp only; omega)
  | enteredBackground => exact Nat.le_add_right _ _

/-- **Refreshes do not multiply.**  In every history of an installation there are no
    more refreshes scheduled or under way than there have been stimuli: however
    often the attempts of a refresh fail, it goes on as one. -/
theorem run_chains_le {i : Installation α} {es : List (Event α κ)} {t : AutoRefresh α κ}
    (h : run (step expirationDate) (installed i) es = some t) :
    t.tasks.length + t.inFlight.length ≤
      tally (step expirationDate) (stimuli expirationDate) (installed i) es := by
  have hstep : ∀ (s : AutoRefresh α κ) (e : Event α κ) (t : AutoRefresh α κ), s.WellFormed →
      s.step expirationDate e = some t → 0 + t.chains ≤ s.chains + s.stimuli expirationDate e := by
    intro s e t hwf ht
    rw [Nat.zero_add]
    exact chains_step hwf ht
  have hinvariant : ∀ (s : AutoRefresh α κ) (e : Event α κ) (t : AutoRefresh α κ), s.WellFormed →
      s.step expirationDate e = some t → t.WellFormed := wellFormed_step
  have hwf := along_of_invariant hinvariant (wellFormed_installed i) es
  have haccount := run_account_le hstep es _ t hwf h
  have hnone : (installed i : AutoRefresh α κ).chains = 0 := rfl
  rw [hnone, Nat.zero_add] at haccount
  exact Nat.le_trans (Nat.le_add_left _ _) haccount

-- ============================================================================
-- A refresh
-- ============================================================================

/-- Ann signs in, and another service asks for a token: refreshes are turned on. -/
def annIsRefreshed : List (Event String Nat) :=
  Auth.annSignsIn.map fun event => .auth event 3600

/-- Her token is replaced, so the task for the old one does nothing; the refresh of
    the new one fails, and again a minute later. -/
def refreshFails : List (Event String Nat) :=
  (Auth.tokenReplaced.map fun event => .auth event 3600) ++
    [.runTask 0 6900, .runTask 0 6900, .auth (.runTask 0 6900) 6900,
      .auth (.secureTokenReply 0 (.error ⟨17020⟩) 6900 {}) 6900,
      .runTask 0 6960, .auth (.runTask 0 6960) 6960,
      .auth (.secureTokenReply 0 (.error ⟨17020⟩) 6960 {}) 6960]

theorem isSome_refreshFails : ((run (step Auth.twoHours) (installed Auth.newInstall)
    (.auth (.relaunch 0 {}) 0 :: (annIsRefreshed ++ refreshFails))).bind fun t =>
      if t.autoRefreshScheduled = true ∧
          t.tasks = [⟨"second", 120, true, 6960, 2⟩] then
        t.auth.token else none) = some "second" := by
  decide +kernel

theorem along_refreshFails : Along (step Auth.twoHours) (OnAuth Auth.SavesTokens)
    (installed Auth.newInstall)
    (.auth (.relaunch 0 {}) 0 :: (annIsRefreshed ++ refreshFails)) := by
  have hwritable : KeychainFaults.Writable {} := ⟨rfl, rfl, rfl⟩
  refine along_of_forall ?_ _
  simp [annIsRefreshed, refreshFails, Auth.annSignsIn, Auth.tokenReplaced, OnAuth,
    Auth.Event.map, Auth.SavesTokens, hwritable]

theorem run_scheduled_refreshFails :
    ∃ t, run (step Auth.twoHours) (installed Auth.newInstall)
        (.auth (.relaunch 0 {}) 0 :: (annIsRefreshed ++ refreshFails)) = some t ∧
      ∃ task ∈ t.tasks, task.accessToken = "second" := by
  obtain ⟨t, ht, hvalue⟩ := Option.bind_eq_some_iff.mp isSome_refreshFails
  split at hvalue
  · rename_i hstate
    exact ⟨t, ht, run_scheduled along_refreshFails ht hstate.1 hvalue⟩
  · cases hvalue

/-- After two failures the next refresh waits for two minutes. -/
theorem run_backoff_refreshFails :
    ∃ t, run (step Auth.twoHours) (installed Auth.newInstall)
        (.auth (.relaunch 0 {}) 0 :: (annIsRefreshed ++ refreshFails)) = some t ∧
      (∃ task ∈ t.tasks, task.failures = 2 ∧ task.delay = 120) ∧
      ∀ task ∈ t.tasks, task.retry = true →
        task.delay = min (60 * 2 ^ (task.failures - 1)) kMaxWaitTimeForBackoff := by
  obtain ⟨t, ht, hvalue⟩ := Option.bind_eq_some_iff.mp isSome_refreshFails
  split at hvalue
  · rename_i hstate
    refine ⟨t, ht, ?_, fun task hmem => ((run_backoff ht).1 task hmem).2⟩
    rw [hstate.2]
    exact ⟨_, List.mem_singleton_self _, rfl, rfl⟩
  · cases hvalue

theorem run_chains_refreshFails :
    ∃ t, run (step Auth.twoHours) (installed Auth.newInstall)
        (.auth (.relaunch 0 {}) 0 :: (annIsRefreshed ++ refreshFails)) = some t ∧
      t.tasks.length + t.inFlight.length ≤
        tally (step Auth.twoHours) (stimuli Auth.twoHours) (installed Auth.newInstall)
          (.auth (.relaunch 0 {}) 0 :: (annIsRefreshed ++ refreshFails)) := by
  obtain ⟨t, ht, -⟩ := Option.bind_eq_some_iff.mp isSome_refreshFails
  exact ⟨t, ht, run_chains_le ht⟩

end AutoRefresh

end Spark.Firebase
