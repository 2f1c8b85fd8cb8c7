/-
  Spark.Firebase.Completions

  What becomes of the completions that an app passes to `FIRAuth` and `FIRUser`.

  The model of the client reduces to `Work`: the token services of its users,
  the requests that have not been answered and the completions called.  Who is
  signed in, what the keychain holds and what fails does not matter here, only
  whether a callback completes a call or makes a request.  A step of the client
  is a step of `Work` (`work_step`), a launch starts with what has been called.

  No completion is called more often than it was passed, and each is called or
  waits exactly as long as every launch finds nothing waiting (`run_completed`);
  and the client comes to an end with every call, within four steps for each
  (`run_settles`).
-/

import Spark.Firebase.Session
import Spark.Lib.Emission
import Mathlib.Algebra.GroupWithZero.Nat

namespace Spark.Firebase

open Spark.Lib

-- ============================================================================
-- Work
-- ============================================================================

/-- The token services of the users, the requests made with their tokens, and the
    completions called. -/
structure Work (κ : Type) where
  services : List (SecureTokenService (TokenCallback κ))
  requests : Calls (UserRequest κ)
  completed : List κ

namespace Work

variable {κ : Type}

/-- The completions that wait for the tokens of a service. -/
def waitingFor (s : SecureTokenService (TokenCallback κ)) : List κ :=
  s.taskQueue.tasks.map fun fetch => fetch.callback.completion

/-- The completions that have not been called. -/
def waiting (w : Work κ) : List κ :=
  w.services.flatMap waitingFor ++ w.requests.outstanding.map fun p => p.2.completion

/-- The state relied on: the services are in order, and a request is for one of
    them. -/
structure WellFormed (w : Work κ) : Prop where
  services : ∀ s ∈ w.services, s.WellFormed
  users : ∀ p ∈ w.requests.outstanding, p.2.user < w.services.length
  numbered : w.requests.Numbered

/-- The work of a process that has just been started. -/
def blank (issued : Nat) (completed : List κ) : Work κ where
  services := []
  requests := { issued }
  completed := completed

theorem wellFormed_blank (issued : Nat) (completed : List κ) : (blank issued completed).WellFormed :=
  ⟨fun _ hs => absurd hs List.not_mem_nil, fun _ hp => absurd hp List.not_mem_nil,
    .none_outstanding issued⟩

/-- The completions called and those that wait. -/
def held (w : Work κ) : Multiset κ := w.completed + (w.waiting : Multiset κ)

/-- What the client does on its own: a service reacts, and the callback it calls
    completes the call or makes a request; a request is answered. -/
inductive Own (expirationDate : String → Option ℚ) (w : Work κ) : Work κ → Prop
  | reacted {u : Nat} {s t : SecureTokenService (TokenCallback κ)}
      {e : SecureTokenService.Event (TokenCallback κ)} (hs : w.services[u]? = some s)
      (hown : SecureTokenService.fetched e = [])
      (hreact : SecureTokenService.Reaction s expirationDate e none t) :
      Own expirationDate w { w with services := w.services.set u t }
  | called {u : Nat} {s t : SecureTokenService (TokenCallback κ)}
      {e : SecureTokenService.Event (TokenCallback κ)} {call : AccessTokenCall (TokenCallback κ)}
      (hs : w.services[u]? = some s) (hown : SecureTokenService.fetched e = [])
      (hreact : SecureTokenService.Reaction s expirationDate e (some call) t) :
      Own expirationDate w
        { w with
          services := w.services.set u t
          completed := w.completed ++ [call.callback.completion] }
  | requested {u : Nat} {s t : SecureTokenService (TokenCallback κ)}
      {e : SecureTokenService.Event (TokenCallback κ)} {call : AccessTokenCall (TokenCallback κ)}
      {request : UserRequest κ} (hs : w.services[u]? = some s)
      (hown : SecureTokenService.fetched e = [])
      (hreact : SecureTokenService.Reaction s expirationDate e (some call) t)
      (hcompletion : request.completion = call.callback.completion) (huser : request.user = u) :
      Own expirationDate w
        { w with services := w.services.set u t, requests := w.requests.issue request }
  | answered {serial : Nat} {request : UserRequest κ} {requests : Calls (UserRequest κ)}
      (hanswer : w.requests.answer serial = some (request, requests)) :
      Own expirationDate w
        { w with requests, completed := w.completed ++ [request.completion] }

/-- What the client does, and the completions it is passed. -/
inductive Step (expirationDate : String → Option ℚ) (w : Work κ) : List κ → Work κ → Prop
  | own {w' : Work κ} (h : Own expirationDate w w') : Step expirationDate w [] w'
  | idle : Step expirationDate w [] w
  | restored {s : SecureTokenService (TokenCallback κ)} (hs : s.WellFormed)
      (htasks : s.taskQueue.tasks = []) :
      Step expirationDate w [] { w with services := w.services ++ [s] }
  | opened {s : SecureTokenService (TokenCallback κ)} {forceRefresh : Bool}
      {callback : TokenCallback κ} (hs : s.WellFormed) (htasks : s.taskQueue.tasks = []) :
      Step expirationDate w [callback.completion]
        { w with services := w.services ++ [s.fetchAccessToken forceRefresh callback] }
  | fetched {u : Nat} {s : SecureTokenService (TokenCallback κ)} {forceRefresh : Bool}
      {callback : TokenCallback κ} (hs : w.services[u]? = some s) :
      Step expirationDate w [callback.completion]
        { w with services := w.services.set u (s.fetchAccessToken forceRefresh callback) }
  | refused {completion : κ} :
      Step expirationDate w [completion] { w with completed := w.completed ++ [completion] }

variable {expirationDate : String → Option ℚ}

-- ============================================================================
-- Where the completions are
-- ============================================================================

/-- One summand of a sum replaced by another. -/
theorem sum_map_set {σ μ : Type*} [AddCommMonoid μ] {l : List σ} {i : Nat} {a : σ}
    (h : l[i]? = some a) (b : σ) (f : σ → μ) :
    ((l.set i b).map f).sum + f a = (l.map f).sum + f b := by
  induction l generalizing i with
  | nil => cases h
  | cons x l ih =>
      cases i with
      | zero =>
          obtain rfl : x = a := Option.some.inj h
          simp only [List.set_cons_zero, List.map_cons, List.sum_cons]
          ac_rfl
      | succ i =>
          have hrest := ih h
          simp only [List.set_cons_succ, List.map_cons, List.sum_cons, add_assoc] at hrest ⊢
          rw [hrest]

/-- The waiting completions, as a sum over the services. -/
theorem coe_waiting (w : Work κ) :
    (w.waiting : Multiset κ) =
      (w.services.map fun s => (waitingFor s : Multiset κ)).sum +
        ((w.requests.outstanding.map fun p => p.2.completion : List κ) : Multiset κ) := by
  have hsum : ∀ l : List (SecureTokenService (TokenCallback κ)),
      ((l.flatMap waitingFor : List κ) : Multiset κ) =
        (l.map fun s => (waitingFor s : Multiset κ)).sum := by
    intro l
    induction l with
    | nil => rfl
    | cons s l ih =>
        rw [List.flatMap_cons, ← Multiset.coe_add, ih, List.map_cons, List.sum_cons]
  rw [waiting, ← Multiset.coe_add, hsum]

/-- A reaction takes the completion of the callback it calls from those that wait. -/
theorem waitingFor_reaction {s t : SecureTokenService (TokenCallback κ)}
    {e : SecureTokenService.Event (TokenCallback κ)}
    {called : Option (AccessTokenCall (TokenCallback κ))}
    (h : SecureTokenService.Reaction s expirationDate e called t)
    (hown : SecureTokenService.fetched e = []) :
    (called.toList.map fun call => call.callback.completion) ++ waitingFor t = waitingFor s := by
  have htasks := congrArg (List.map TokenCallback.completion) (Auth.callbacks_reaction h hown)
  simp only [List.map_append, List.map_map] at htasks
  exact htasks

@[simp] theorem waitingFor_fetchAccessToken (s : SecureTokenService (TokenCallback κ))
    (forceRefresh : Bool) (callback : TokenCallback κ) :
    waitingFor (s.fetchAccessToken forceRefresh callback) =
      waitingFor s ++ [callback.completion] := by
  simp [waitingFor, SecureTokenService.fetchAccessToken]

theorem waiting_set {w : Work κ} {u : Nat} {s : SecureTokenService (TokenCallback κ)}
    (hs : w.services[u]? = some s) (t : SecureTokenService (TokenCallback κ)) :
    (({ w with services := w.services.set u t }.waiting : List κ) : Multiset κ) + waitingFor s =
      w.waiting + waitingFor t := by
  have hsum := sum_map_set hs t fun s => (waitingFor s : Multiset κ)
  rw [coe_waiting, coe_waiting]
  dsimp only
  rw [add_right_comm, hsum, add_right_comm]

theorem waiting_append (w : Work κ) (s : SecureTokenService (TokenCallback κ)) :
    (({ w with services := w.services ++ [s] }.waiting : List κ) : Multiset κ) =
      w.waiting + waitingFor s := by
  rw [coe_waiting, coe_waiting]
  simp only [List.map_append, List.map_singleton, List.sum_append, List.sum_singleton]
  rw [add_right_comm]

theorem waiting_issue (w : Work κ) (request : UserRequest κ) :
    (({ w with requests := w.requests.issue request }.waiting : List κ) : Multiset κ) =
      w.waiting + {request.completion} := by
  simp only [waiting, Calls.issue, List.map_append, List.map_singleton, ← List.append_assoc]
  rfl

theorem waiting_answer {w : Work κ} (hw : w.requests.Numbered) {serial : Nat}
    {request : UserRequest κ} {requests : Calls (UserRequest κ)}
    (h : w.requests.answer serial = some (request, requests)) :
    (w.waiting : Multiset κ) = {request.completion} + ({ w with requests }.waiting : List κ) := by
  have hperm := ((hw.answer h).1.map fun p => p.2.completion)
  rw [coe_waiting, coe_waiting, Multiset.coe_eq_coe.mpr hperm]
  rw [List.map_cons, ← Multiset.cons_coe, ← Multiset.singleton_add, add_left_comm]

/-- A service that reacts gives up the completion of the callback it calls. -/
theorem waiting_reaction {w : Work κ} {u : Nat} {s t : SecureTokenService (TokenCallback κ)}
    {e : SecureTokenService.Event (TokenCallback κ)}
    {called : Option (AccessTokenCall (TokenCallback κ))} (hs : w.services[u]? = some s)
    (hown : SecureTokenService.fetched e = [])
    (hreact : SecureTokenService.Reaction s expirationDate e called t) :
    (w.waiting : Multiset κ) =
      (called.toList.map fun call => call.callback.completion : List κ) +
        ({ w with services := w.services.set u t }.waiting : List κ) := by
  have hset := waiting_set hs t
  rw [← waitingFor_reaction hreact hown, ← Multiset.coe_add, ← add_assoc] at hset
  rw [add_comm]
  exact (add_right_cancel hset).symm

/-- No step of the client loses a completion or calls one that has not waited. -/
theorem Own.balance {w w' : Work κ} (h : Own expirationDate w w') (hw : w.WellFormed) :
    w'.held = w.held := by
  rw [held, held]
  cases h with
  | reacted hs hown hreact =>
      rw [waiting_reaction hs hown hreact]
      simp
  | called hs hown hreact =>
      rw [waiting_reaction hs hown hreact, ← Multiset.coe_add, add_assoc]
      rfl
  | @requested u s t e call request hs hown hreact hcompletion huser =>
      have hissue := waiting_issue { w with services := w.services.set u t } request
      rw [waiting_reaction hs hown hreact, hissue, hcompletion, add_comm (Multiset.ofList _) {_}]
      rfl
  | answered hanswer =>
      rw [waiting_answer hw.numbered hanswer, ← Multiset.coe_add, add_assoc]
      rfl

/-- **Balance of a step.**  What has been called and what waits grows by what the
    step is passed. -/
theorem Step.balance {w w' : Work κ} {passed : List κ} (h : Step expirationDate w passed w')
    (hw : w.WellFormed) :
    w'.held = w.held + passed := by
  rw [held, held]
  cases h with
  | own h => exact (h.balance hw).trans (add_zero _).symm
  | idle => exact (add_zero _).symm
  | restored hs htasks =>
      rw [waiting_append, waitingFor, htasks, add_assoc]
      rfl
  | opened hs htasks =>
      rw [waiting_append, waitingFor_fetchAccessToken, waitingFor, htasks, add_assoc]
      rfl
  | @fetched u s forceRefresh callback hs =>
      have hset := waiting_set hs (s.fetchAccessToken forceRefresh callback)
      rw [waitingFor_fetchAccessToken, ← Multiset.coe_add, ← add_assoc, add_right_comm] at hset
      rw [add_right_cancel hset, add_assoc]
  | refused =>
      rw [← Multiset.coe_add]
      exact add_right_comm _ _ _

/-- The completions that a step has called waited before it, or came with it. -/
theorem Step.called {w w' : Work κ} {passed : List κ} (h : Step expirationDate w passed w')
    (hw : w.WellFormed) :
    ∃ called, w'.completed = w.completed ++ called ∧
      (called ++ w'.waiting).Perm (w.waiting ++ passed) := by
  obtain ⟨called, hcalled⟩ : ∃ called, w'.completed = w.completed ++ called := by
    cases h with
    | own h =>
        cases h with
        | reacted => exact ⟨[], (List.append_nil _).symm⟩
        | requested => exact ⟨[], (List.append_nil _).symm⟩
        | called => exact ⟨_, rfl⟩
        | answered => exact ⟨_, rfl⟩
    | refused => exact ⟨_, rfl⟩
    | _ => exact ⟨[], (List.append_nil _).symm⟩
  refine ⟨called, hcalled, Multiset.coe_eq_coe.mp ?_⟩
  have hbalance := h.balance hw
  rw [held, held, hcalled, ← Multiset.coe_add, add_assoc, add_assoc] at hbalance
  rw [← Multiset.coe_add, ← Multiset.coe_add]
  exact add_left_cancel hbalance

-- ============================================================================
-- What the steps rely on
-- ============================================================================

theorem WellFormed.set {w : Work κ} (hw : w.WellFormed) {u : Nat}
    {s : SecureTokenService (TokenCallback κ)} (hs : s.WellFormed) :
    { w with services := w.services.set u s }.WellFormed := by
  refine ⟨?_, ?_, hw.numbered⟩
  · intro t ht
    rcases List.mem_or_eq_of_mem_set ht with ht | rfl
    · exact hw.services t ht
    · exact hs
  · intro p hp
    rw [List.length_set]
    exact hw.users p hp

theorem WellFormed.append {w : Work κ} (hw : w.WellFormed)
    {s : SecureTokenService (TokenCallback κ)} (hs : s.WellFormed) :
    { w with services := w.services ++ [s] }.WellFormed := by
  refine ⟨?_, ?_, hw.numbered⟩
  · intro t ht
    rcases List.mem_append.mp ht with ht | ht
    · exact hw.services t ht
    · exact List.mem_singleton.mp ht ▸ hs
  · intro p hp
    rw [List.length_append]
    exact Nat.lt_add_right 1 (hw.users p hp)

theorem WellFormed.issue {w : Work κ} (hw : w.WellFormed) {request : UserRequest κ}
    (huser : request.user < w.services.length) :
    { w with requests := w.requests.issue request }.WellFormed := by
  refine ⟨hw.services, ?_, hw.numbered.issue request⟩
  intro p hp
  rcases Calls.mem_issue.mp hp with hp | rfl
  · exact hw.users p hp
  · exact huser

theorem Own.wellFormed {w w' : Work κ} (h : Own expirationDate w w') (hw : w.WellFormed) :
    w'.WellFormed := by
  have hreacted : ∀ {u s t e called}, w.services[u]? = some s →
      SecureTokenService.Reaction s expirationDate e called t →
      { w with services := w.services.set u t }.WellFormed := by
    intro u s t e called hs hreact
    exact hw.set (hreact.wellFormed (hw.services s (List.mem_of_getElem? hs)))
  cases h with
  | reacted hs hown hreact => exact hreacted hs hreact
  | called hs hown hreact =>
      have hset := hreacted hs hreact
      exact ⟨hset.services, hset.users, hset.numbered⟩
  | requested hs hown hreact hcompletion huser =>
      refine (hreacted hs hreact).issue ?_
      rw [huser, List.length_set]
      exact (List.getElem?_eq_some_iff.mp hs).1
  | answered hanswer =>
      refine ⟨hw.services, ?_, (hw.numbered.answer hanswer).2⟩
      intro p hp
      exact hw.users p (((Calls.answer_some hanswer).2.2 p).mp hp).1

theorem Step.wellFormed {w w' : Work κ} {passed : List κ} (h : Step expirationDate w passed w')
    (hw : w.WellFormed) : w'.WellFormed := by
  cases h with
  | own h => exact h.wellFormed hw
  | idle => exact hw
  | restored hs htasks => exact hw.append hs
  | opened hs htasks => exact hw.append hs
  | @fetched u s forceRefresh callback hs =>
      exact hw.set (s := s.fetchAccessToken forceRefresh callback)
        (hw.services s (List.mem_of_getElem? hs))
  | refused => exact ⟨hw.services, hw.users, hw.numbered⟩

-- ============================================================================
-- Progress
-- ============================================================================

/-- The steps the client has left: those of a service, one for the request that a
    callback may make, and one for each request made. -/
def stepsLeft (w : Work κ) : Nat :=
  (w.services.map fun s => s.stepsLeft + s.taskQueue.tasks.length).sum +
    w.requests.outstanding.length

theorem stepsLeft_reaction {w : Work κ} {u : Nat} {s t : SecureTokenService (TokenCallback κ)}
    {e : SecureTokenService.Event (TokenCallback κ)}
    {called : Option (AccessTokenCall (TokenCallback κ))} (hs : w.services[u]? = some s)
    (hown : SecureTokenService.fetched e = [])
    (hreact : SecureTokenService.Reaction s expirationDate e called t) :
    { w with services := w.services.set u t }.stepsLeft + called.toList.length < w.stepsLeft := by
  have hsum := sum_map_set hs t fun s => s.stepsLeft + s.taskQueue.tasks.length
  have hless := hreact.stepsLeft_lt hown
  have htasks := congrArg List.length (waitingFor_reaction hreact hown)
  simp only [List.length_append, List.length_map, waitingFor] at htasks
  rw [stepsLeft, stepsLeft]
  dsimp only
  omega

/-- **Every step of the client brings it closer to the end.** -/
theorem Own.stepsLeft_lt {w w' : Work κ} (h : Own expirationDate w w') (hw : w.WellFormed) :
    w'.stepsLeft < w.stepsLeft := by
  cases h with
  | reacted hs hown hreact => exact stepsLeft_reaction hs hown hreact
  | called hs hown hreact =>
      exact Nat.lt_of_le_of_lt (Nat.le_add_right _ _) (stepsLeft_reaction hs hown hreact)
  | requested hs hown hreact hcompletion huser =>
      have hless := stepsLeft_reaction hs hown hreact
      simp only [stepsLeft, Calls.issue, List.length_append, Option.toList_some,
        List.length_singleton] at hless ⊢
      omega
  | answered hanswer =>
      have hlength := (hw.numbered.answer hanswer).1.length_eq
      simp only [stepsLeft, List.length_cons] at hlength ⊢
      omega

/-- At most four steps for each completion that waits. -/
theorem WellFormed.stepsLeft_le {w : Work κ} (hw : w.WellFormed) :
    w.stepsLeft ≤ 4 * w.waiting.length := by
  have hsum : ∀ l : List (SecureTokenService (TokenCallback κ)), (∀ s ∈ l, s.WellFormed) →
      (l.map fun s => s.stepsLeft + s.taskQueue.tasks.length).sum ≤
        4 * (l.flatMap waitingFor).length := by
    intro l hl
    induction l with
    | nil => exact Nat.le_refl 0
    | cons s l ih =>
        have hrest := ih fun t ht => hl t (List.mem_cons_of_mem s ht)
        have hhead := (hl s List.mem_cons_self).stepsLeft_le
        simp only [List.map_cons, List.sum_cons, List.flatMap_cons, List.length_append] at hrest ⊢
        simp only [waitingFor, List.length_map] at hrest ⊢
        omega
  have hservices := hsum w.services hw.services
  rw [stepsLeft, waiting, List.length_append, List.length_map]
  omega

end Work

-- ============================================================================
-- The work of the client
-- ============================================================================

namespace Auth

variable {α κ : Type} {expirationDate : String → Option ℚ}

def work (a : Auth α κ) : Work κ where
  services := a.users.map User.tokenService
  requests := a.requests
  completed := a.completions.map UserCompletion.completion

theorem work_complete (a : Auth α κ) (completion : UserCompletion κ) :
    (a.complete completion).work =
      { a.work with completed := a.work.completed ++ [completion.completion] } := by
  simp [work, complete]

theorem work_updateUser (a : Auth α κ) (u : Nat) (user : User α κ) :
    (a.updateUser u user).work =
      { a.work with services := a.work.services.set u user.tokenService } := by
  simp [work, updateUser, List.map_set]

/-- A change to a user that leaves its tokens alone. -/
theorem work_updateUser_same {a : Auth α κ} {u : Nat} {user : User α κ}
    (huser : a.users[u]? = some user) (user' : User α κ)
    (hservice : user'.tokenService = user.tokenService) : (a.updateUser u user').work = a.work := by
  obtain ⟨hlt, huser⟩ := List.getElem?_eq_some_iff.mp huser
  have hsame : a.work.services.set u user'.tokenService = a.work.services := by
    refine List.ext_getElem? ?_
    intro v
    by_cases hv : u = v
    · subst hv
      rw [List.getElem?_set_self (by simpa [work] using hlt), hservice]
      simp [work, hlt, huser]
    · rw [List.getElem?_set_ne hv]
  rw [work_updateUser, hsame]

theorem services_work {a : Auth α κ} {u : Nat} {user : User α κ} (h : a.users[u]? = some user) :
    a.work.services[u]? = some user.tokenService := by
  rw [work, List.getElem?_map, h]
  rfl

-- ============================================================================
-- The operations on the current user
-- ============================================================================

theorem work_possiblyPost (a : Auth α κ) :
    a.possiblyPostAuthStateChangeNotification.work = a.work := by
  obtain ⟨notifications, h⟩ := possiblyPost_eq a
  rw [h]
  rfl

theorem work_saveUser (a : Auth α κ) (user : Option (User α κ)) (faults : KeychainFaults) :
    (a.saveUser user faults).2.work = a.work := rfl

theorem work_updateCurrentUser (a : Auth α κ) (user : Option Nat) (force saveToDisk : Bool)
    (faults : KeychainFaults) :
    (a.updateCurrentUser user force saveToDisk faults).2.work = a.work := by
  have hset : ∀ b : Auth α κ, b.work = a.work →
      { b with currentUser := user }.possiblyPostAuthStateChangeNotification.work = a.work :=
    fun b hb => (work_possiblyPost _).trans hb
  rw [updateCurrentUser]
  split
  · exact work_possiblyPost a
  · dsimp only
    split
    · rfl
    · cases saveToDisk with
      | false => exact hset a rfl
      | true =>
          have hsave := work_saveUser a (user.bind fun u => a.users[u]?) faults
          simp only [if_true]
          split
          · exact hset _ hsave
          · cases force with
            | true => exact hset _ hsave
            | false => exact hsave

theorem work_signOut (a : Auth α κ) (faults : KeychainFaults) :
    (a.signOut faults).2.work = a.work := by
  rw [signOut]
  split
  · rfl
  · exact work_updateCurrentUser a none false true faults

theorem work_signOutByForce (a : Auth α κ) (userID : Option UserID) (faults : KeychainFaults) :
    (a.signOutByForce userID faults).2.work = a.work := by
  rw [signOutByForce]
  split
  · rfl
  · exact work_updateCurrentUser a none true true faults

theorem work_signOutIfTokenIsInvalid (a : Auth α κ) (u : Nat) (error : NSError)
    (faults : KeychainFaults) : (a.signOutIfTokenIsInvalid u error faults).work = a.work := by
  rw [signOutIfTokenIsInvalid]
  split
  · exact work_signOutByForce a _ faults
  · rfl

theorem work_updateKeychain (a : Auth α κ) (u : Nat) (faults : KeychainFaults) :
    (a.updateKeychain u faults).2.work = a.work := by
  rw [updateKeychain]
  split
  · rfl
  · dsimp only
    split
    · exact (work_possiblyPost _).trans (work_saveUser a _ faults)
    · exact work_saveUser a _ faults

-- ============================================================================
-- Callbacks and replies
-- ============================================================================

/-- A callback completes its call or makes a request for it. -/
theorem work_tokenCallback (a : Auth α κ) (u : Nat) (callback : TokenCallback κ)
    (result : Except UserError (Option String)) :
    (a.tokenCallback u callback result).work =
        { a.work with completed := a.work.completed ++ [callback.completion] } ∨
      ∃ request : UserRequest κ, request.completion = callback.completion ∧ request.user = u ∧
        (a.tokenCallback u callback result).work =
          { a.work with requests := a.work.requests.issue request } := by
  cases result with
  | error error => cases callback <;> exact .inl (work_complete a _)
  | ok token =>
      cases callback with
      | getIDToken => exact .inl (work_complete a _)
      | _ => exact .inr ⟨_, rfl, rfl, rfl⟩

theorem work_accessTokenCall (a : Auth α κ) (u : Nat) (call : AccessTokenCall (TokenCallback κ))
    (faults : KeychainFaults) :
    (a.accessTokenCall u call faults).work =
        { a.work with completed := a.work.completed ++ [call.callback.completion] } ∨
      ∃ request : UserRequest κ, request.completion = call.callback.completion ∧
        request.user = u ∧
        (a.accessTokenCall u call faults).work =
          { a.work with requests := a.work.requests.issue request } := by
  rw [accessTokenCall.eq_def]
  cases call.error with
  | some error =>
      rw [← work_signOutIfTokenIsInvalid a u error faults]
      exact work_tokenCallback _ u _ _
  | none =>
      dsimp only
      split
      · rw [← work_updateKeychain a u faults]
        exact work_tokenCallback _ u _ _
      · exact work_tokenCallback a u _ _

/-- A token service that reacts does a step of the work. -/
theorem own_tokenServiceReacted {a : Auth α κ} {u : Nat} {user : User α κ}
    {faults : KeychainFaults} (huser : a.users[u]? = some user)
    {e : SecureTokenService.Event (TokenCallback κ)}
    {r : Option (AccessTokenCall (TokenCallback κ)) × SecureTokenService (TokenCallback κ)}
    (hown : SecureTokenService.fetched e = [])
    (hreact : SecureTokenService.Reaction user.tokenService expirationDate e r.1 r.2) :
    Work.Own expirationDate a.work (a.tokenServiceReacted u user faults r).work := by
  obtain ⟨called, service⟩ := r
  have hs := services_work huser
  have hset := work_updateUser a u { user with tokenService := service }
  rw [tokenServiceReacted]
  cases called with
  | none =>
      rw [hset]
      exact .reacted hs hown hreact
  | some call =>
      rcases work_accessTokenCall (a.updateUser u { user with tokenService := service }) u call
        faults with h | ⟨request, hcompletion, hrequest, h⟩
      · dsimp only
        rw [h, hset]
        exact .called hs hown hreact
      · dsimp only
        rw [h, hset]
        exact .requested hs hown hreact hcompletion hrequest

/-- Whatever the reply, the call is completed. -/
theorem work_requestCallback {a t : Auth α κ} {faults : KeychainFaults} {request : UserRequest κ}
    {reply : UserReply α} (h : a.requestCallback faults request reply = some t) :
    t.work = { a.work with completed := a.work.completed ++ [request.completion] } := by
  have hdone : ∀ {b : Auth α κ} {completion : UserCompletion κ}, b.work = a.work →
      completion.completion = request.completion → (b.complete completion).work =
        { a.work with completed := a.work.completed ++ [request.completion] } := by
    intro b completion hb hcompletion
    rw [work_complete, hb, hcompletion]
  unfold requestCallback at h
  split at h
  · obtain rfl := Option.some.inj h
    exact hdone rfl rfl
  · rename_i u accessToken anonymous completion response
    obtain ⟨user, huser, rfl⟩ := Option.map_eq_some_iff.mp h
    have hsame := (work_updateCurrentUser _ (some u) false true faults).trans
      (work_updateUser_same huser
        ({ user with anonymous }.updateWithGetAccountInfoResponse response) rfl)
    dsimp only
    split
    · exact hdone hsame rfl
    · exact hdone hsame rfl
  · rename_i u accessToken completion error
    obtain rfl := Option.some.inj h
    exact hdone (work_signOutIfTokenIsInvalid a u error faults) rfl
  · rename_i u accessToken completion response
    obtain ⟨user, huser, rfl⟩ := Option.map_eq_some_iff.mp h
    have hsame := (work_updateKeychain _ u faults).trans
      (work_updateUser_same huser (user.updateWithGetAccountInfoResponse response) rfl)
    dsimp only
    split
    · exact hdone hsame rfl
    · exact hdone hsame rfl
  · obtain rfl := Option.some.inj h
    exact hdone rfl rfl
  · rename_i u localID accessToken completion
    have hsame := work_signOutByForce a ((a.users[u]?).bind User.userID) faults
    dsimp only at h
    split at h
    · obtain rfl := Option.some.inj h
      exact hdone hsame rfl
    · obtain rfl := Option.some.inj h
      exact hdone hsame rfl
  · cases h

/-- A reply of the right kind is taken. -/
theorem exists_requestCallback {a : Auth α κ} {request : UserRequest κ}
    (hlt : request.user < a.users.length) (faults : KeychainFaults)
    (result : Except NSError (AccountInfo α)) (error : Option NSError) :
    ∃ reply ∈ [.getAccountInfo result, .deleteAccount error],
      (a.requestCallback faults request reply).isSome := by
  cases request with
  | retrieveUser u =>
      refine ⟨.getAccountInfo result, by simp, ?_⟩
      cases result with
      | error error => rfl
      | ok response => simpa [requestCallback, UserRequest.user] using hlt
  | getAccountInfo u =>
      refine ⟨.getAccountInfo result, by simp, ?_⟩
      cases result with
      | error error => rfl
      | ok response => simpa [requestCallback, UserRequest.user] using hlt
  | deleteAccount u =>
      refine ⟨.deleteAccount error, by simp, ?_⟩
      cases error with
      | some error => rfl
      | none =>
          unfold requestCallback
          dsimp only
          split <;> rfl

-- ============================================================================
-- Steps
-- ============================================================================

/-- The completion that comes with an event. -/
def Event.passed : Event α κ → List κ
  | .completeSignIn _ _ _ _ completion => [completion]
  | .getIDToken _ _ completion => [completion]
  | .getToken _ completion => [completion]
  | .reload _ completion => [completion]
  | .delete _ completion => [completion]
  | _ => []

/-- What the client does on its own. -/
def Event.Own : Event α κ → Prop
  | .runTask .. => True
  | .secureTokenReply .. => True
  | .reply .. => True
  | _ => False

theorem idle_initWithCoder {archive : UserArchive α} {reference : Nat} {user : User α κ}
    (h : User.initWithCoder archive reference = some user) :
    user.tokenService.WellFormed ∧ user.tokenService.taskQueue.tasks = [] := by
  unfold User.initWithCoder at h
  split at h
  · obtain rfl := Option.some.inj h
    exact ⟨rfl, rfl⟩
  · cases h

/-- The saved user that a launch reads has nothing to do yet. -/
theorem work_protectedDataInitialization (expirationDate : String → Option ℚ) (a : Auth α κ)
    (reference : Nat) (faults : KeychainFaults) :
    Work.Step expirationDate a.work [] (a.protectedDataInitialization reference faults).work := by
  rw [protectedDataInitialization.eq_def]
  dsimp only
  split
  · exact .idle
  · rename_i archive hread
    have hwork : ∀ (b : Auth α κ) (user : Option Nat) (token : Option String),
        { (b.updateCurrentUser user false false faults).2 with
          lastNotifiedUserToken := token }.work = b.work :=
      fun b user token => work_updateCurrentUser b user false false faults
    rw [hwork]
    cases huser : archive.bind fun archive => User.initWithCoder archive reference with
    | none =>
        simp only [Option.toList_none, List.append_nil]
        exact .idle
    | some user =>
        obtain ⟨archive, -, huser⟩ := Option.bind_eq_some_iff.mp huser
        obtain ⟨hservice, htasks⟩ := idle_initWithCoder huser
        simp only [Option.toList_some, work, List.map_append, List.map_singleton]
        exact .restored hservice htasks

theorem work_launched (expirationDate : String → Option ℚ) (a : Auth α κ) (reference : Nat)
    (faults : KeychainFaults) :
    Work.Step expirationDate (.blank a.requests.issued a.work.completed) []
      (a.launched reference faults).work :=
  work_protectedDataInitialization expirationDate
    { firebaseAppName := a.firebaseAppName
      keychainServices := a.keychainServices
      requests := { issued := a.requests.issued }
      completions := a.completions
      notifications := a.notifications }
    reference faults

/-- What the client does on its own is what its work does. -/
theorem work_own {a t : Auth α κ} {e : Event α κ} (hown : e.Own)
    (h : a.step expirationDate e = some t) : Work.Own expirationDate a.work t.work := by
  cases e with
  | runTask u now =>
      obtain ⟨user, huser, h⟩ := Option.bind_eq_some_iff.mp h
      obtain ⟨r, hreact, rfl⟩ := Option.map_eq_some_iff.mp h
      exact own_tokenServiceReacted huser rfl (SecureTokenService.reaction_runTask _ hreact)
  | secureTokenReply u response now faults =>
      obtain ⟨user, huser, h⟩ := Option.bind_eq_some_iff.mp h
      obtain ⟨r, hreact, rfl⟩ := Option.map_eq_some_iff.mp h
      exact own_tokenServiceReacted huser rfl (SecureTokenService.reaction_secureTokenReply hreact)
  | reply serial reply faults =>
      obtain ⟨⟨request, requests⟩, hanswer, h⟩ := Option.bind_eq_some_iff.mp h
      rw [work_requestCallback h]
      exact .answered hanswer
  | _ => exact hown.elim

theorem work_internalGetToken {a t : Auth α κ} {u : Nat} {forceRefresh : Bool}
    {callback : TokenCallback κ} (h : a.internalGetToken u forceRefresh callback = some t) :
    Work.Step expirationDate a.work [callback.completion] t.work := by
  obtain ⟨user, huser, rfl⟩ := Option.map_eq_some_iff.mp h
  rw [work_updateUser]
  exact .fetched (services_work huser)

/-- **A step of the client is a step of its work**, unless the app is launched
    again. -/
theorem work_step {a t : Auth α κ} {e : Event α κ} (hstays : ¬e.Relaunch)
    (h : a.step expirationDate e = some t) :
    Work.Step expirationDate a.work e.passed t.work := by
  cases e with
  | completeSignIn accessToken date refreshToken anonymous completion =>
      obtain rfl := Option.some.inj h
      have hopened : Work.Step expirationDate a.work
          [(TokenCallback.retrieveUser anonymous completion).completion]
          { a.work with
            services := a.work.services ++
              [(SecureTokenService.initWithRequestConfiguration accessToken date
                refreshToken).fetchAccessToken false (.retrieveUser anonymous completion)] } :=
        .opened rfl rfl
      simpa [completeSignIn, work, Event.passed, TokenCallback.completion] using hopened
  | getIDToken u forceRefresh completion => exact work_internalGetToken h
  | getToken forceRefresh completion =>
      rw [step, getToken] at h
      split at h
      · obtain rfl := Option.some.inj h
        rw [work_complete]
        exact .refused
      · exact work_internalGetToken h
  | reload u completion => exact work_internalGetToken h
  | delete u completion => exact work_internalGetToken h
  | signOut faults =>
      obtain rfl := Option.some.inj h
      rw [work_signOut]
      exact .idle
  | setTenantID tenantID =>
      obtain rfl := Option.some.inj h
      exact .idle
  | protectedDataDidBecomeAvailable reference faults =>
      rw [step] at h
      split at h
      · obtain rfl := Option.some.inj h
        exact work_protectedDataInitialization expirationDate
          { a with protectedDataDidBecomeAvailableObserver := false } reference faults
      · cases h
  | relaunch reference faults => exact absurd trivial hstays
  | runTask u now => exact .own (work_own (e := .runTask u now) trivial h)
  | secureTokenReply u response now faults =>
      exact .own (work_own (e := .secureTokenReply u response now faults) trivial h)
  | reply serial reply faults => exact .own (work_own (e := .reply serial reply faults) trivial h)

/-- The completions that a step has called are the last ones in the log. -/
theorem called_step {a t : Auth α κ} {e : Event α κ} (ha : a.work.WellFormed)
    (hstays : ¬e.Relaunch) (h : a.step expirationDate e = some t) :
    ((t.completions.drop a.completions.length).map UserCompletion.completion ++
      t.work.waiting).Perm (a.work.waiting ++ e.passed) := by
  obtain ⟨called, hcalled, hperm⟩ := (work_step hstays h).called ha
  have hlog : t.completions.map UserCompletion.completion =
      a.completions.map UserCompletion.completion ++ called := hcalled
  have hlength : a.completions.length = (a.completions.map UserCompletion.completion).length :=
    (List.length_map _).symm
  rw [List.map_drop, hlog, hlength, List.drop_left]
  exact hperm

-- ============================================================================
-- Runs
-- ============================================================================

/-- The completions that a launch of the app leaves uncalled. -/
def lost (a : Auth α κ) : Event α κ → List κ
  | .relaunch .. => a.work.waiting
  | _ => []

theorem lost_of_stays {a : Auth α κ} {e : Event α κ} (h : ¬e.Relaunch) : a.lost e = [] := by
  cases e with
  | relaunch => exact absurd trivial h
  | _ => rfl

theorem balance_step {a t : Auth α κ} {e : Event α κ} (ha : a.work.WellFormed)
    (h : a.step expirationDate e = some t) :
    (a.lost e : Multiset κ) + t.work.held = a.work.held + e.passed ∧ t.work.WellFormed := by
  by_cases hstays : e.Relaunch
  · cases e with
    | relaunch reference faults =>
        obtain rfl := Option.some.inj h
        have hstep := work_launched expirationDate a reference faults
        have hblank := Work.wellFormed_blank a.requests.issued a.work.completed
        refine ⟨?_, hstep.wellFormed hblank⟩
        rw [hstep.balance hblank, Work.held, Work.held, add_comm]
        simp [lost, Work.waiting, Work.blank, Event.passed]
    | _ => exact hstays.elim
  · have hstep := work_step hstays h
    rw [lost_of_stays hstays, hstep.balance ha]
    exact ⟨zero_add _, hstep.wellFormed ha⟩

theorem wellFormed_installed (i : Installation α) : (installed i : Auth α κ).work.WellFormed :=
  Work.wellFormed_blank 0 []

theorem wellFormed_run {i : Installation α} {es : List (Event α κ)} {t : Auth α κ}
    (h : run (step expirationDate) (installed i) es = some t) : t.work.WellFormed := by
  have hstep : ∀ (a : Auth α κ) (e : Event α κ) (b : Auth α κ), a.work.WellFormed → True →
      a.step expirationDate e = some b → b.work.WellFormed :=
    fun a e b ha _ hb => (balance_step ha hb).2
  exact run_invariant hstep es _ t (wellFormed_installed i) (along_true _ _ es) h

/-- The accounts of a history: every completion passed has been called, waits, or
    was left uncalled by a launch. -/
theorem balance_run {i : Installation α} {es : List (Event α κ)} {t : Auth α κ}
    (h : run (step expirationDate) (installed i) es = some t) :
    (emitted (step expirationDate) lost (installed i) es : Multiset κ) + t.work.held =
      es.flatMap Event.passed := by
  have hstep : ∀ (a : Auth α κ) (e : Event α κ) (b : Auth α κ), a.work.WellFormed →
      a.step expirationDate e = some b →
      (a.lost e : Multiset κ) + b.work.held = a.work.held + e.passed :=
    fun a e b ha hb => (balance_step ha hb).1
  have hwf : ∀ (a : Auth α κ) (e : Event α κ) (b : Auth α κ), a.work.WellFormed →
      a.step expirationDate e = some b → b.work.WellFormed :=
    fun a e b ha hb => (balance_step ha hb).2
  have hrun := run_balance hstep es _ t (along_of_invariant hwf (wellFormed_installed i) es) h
  rw [emitted_event h] at hrun
  exact hrun.trans (zero_add _)

/-- **Every completion is called once.**  In every history of an installation no
    completion is called more often than it was passed, and all that were passed
    have been called or wait exactly as long as no launch finds one waiting. -/
theorem run_completed {i : Installation α} {es : List (Event α κ)} {t : Auth α κ}
    (h : run (step expirationDate) (installed i) es = some t) :
    (t.completions.map UserCompletion.completion : Multiset κ) ≤ es.flatMap Event.passed ∧
      (((t.completions.map UserCompletion.completion : List κ) : Multiset κ) + t.work.waiting =
          es.flatMap Event.passed ↔
        Along (step expirationDate) (fun a e => a.lost e = []) (installed i) es) := by
  have hbalance : (emitted (step expirationDate) lost (installed i) es : Multiset κ) +
      (t.work.completed + t.work.waiting) = es.flatMap Event.passed := balance_run h
  constructor
  · rw [← hbalance, add_left_comm]
    exact Multiset.le_add_right _ _
  · rw [← emitted_eq_nil_iff h, ← Multiset.coe_eq_zero, ← hbalance]
    exact right_eq_add

-- ============================================================================
-- Progress
-- ============================================================================

/-- What the surroundings of the client may give it next. -/
structure Surroundings (α : Type) where
  now : ℚ
  secureToken : Except NSError SecureTokenResponse
  getAccountInfo : Except NSError (AccountInfo α)
  deleteAccount : Option NSError
  faults : KeychainFaults

def Surroundings.Give (r : Surroundings α) : Event α κ → Prop
  | .runTask _ now => now = r.now
  | .secureTokenReply _ response now faults =>
      response = r.secureToken ∧ now = r.now ∧ faults = r.faults
  | .reply _ (.getAccountInfo result) faults => result = r.getAccountInfo ∧ faults = r.faults
  | .reply _ (.deleteAccount error) faults => error = r.deleteAccount ∧ faults = r.faults
  | _ => False

theorem exists_step_of_tasks {a : Auth α κ} (ha : a.work.WellFormed) {u : Nat} {user : User α κ}
    (huser : a.users[u]? = some user) (htasks : user.tokenService.taskQueue.tasks ≠ [])
    (r : Surroundings α) :
    ∃ e, r.Give e ∧ (a.step expirationDate e).isSome := by
  have hservice := ha.services _ (List.mem_of_getElem? (services_work huser))
  obtain ⟨e, he, hstep⟩ : ∃ e ∈ [.runTask r.now, .secureTokenReply r.secureToken r.now],
      (user.tokenService.step expirationDate e).isSome :=
    hservice.exists_step htasks r.secureToken r.now
  rw [SecureTokenService.step, Option.isSome_map] at hstep
  rcases List.mem_cons.mp he with rfl | he
  · refine ⟨.runTask u r.now, rfl, ?_⟩
    rw [step, huser, Option.bind_some, Option.isSome_map]
    exact hstep
  · obtain rfl := List.mem_singleton.mp he
    refine ⟨.secureTokenReply u r.secureToken r.now r.faults, ⟨rfl, rfl, rfl⟩, ?_⟩
    rw [step, huser, Option.bind_some, Option.isSome_map]
    exact hstep

theorem exists_step_of_request {a : Auth α κ} (ha : a.work.WellFormed) {serial : Nat}
    {request : UserRequest κ} (hmem : (serial, request) ∈ a.requests.outstanding)
    (r : Surroundings α) :
    ∃ e, r.Give e ∧ (a.step expirationDate e).isSome := by
  obtain ⟨requests, hanswer⟩ : ∃ requests, a.requests.answer serial = some (request, requests) :=
    ha.numbered.exists_answer hmem
  have hlt : request.user < a.users.length := by
    have hlt := ha.users _ hmem
    rwa [work, List.length_map] at hlt
  obtain ⟨reply, hreply, htaken⟩ := exists_requestCallback (a := { a with requests }) hlt r.faults
    r.getAccountInfo r.deleteAccount
  refine ⟨.reply serial reply r.faults, ?_, ?_⟩
  · rcases List.mem_cons.mp hreply with rfl | hreply
    · exact ⟨rfl, rfl⟩
    · obtain rfl := List.mem_singleton.mp hreply
      exact ⟨rfl, rfl⟩
  · rw [step, hanswer, Option.bind_some]
    exact htaken

/-- While a completion waits there is a step to take, whatever the surroundings
    give. -/
theorem exists_step_of_waiting {a : Auth α κ} (ha : a.work.WellFormed)
    (hwaiting : a.work.waiting ≠ []) (r : Surroundings α) :
    ∃ e, r.Give e ∧ (a.step expirationDate e).isSome := by
  obtain ⟨completion, hmem⟩ := List.exists_mem_of_ne_nil _ hwaiting
  rcases List.mem_append.mp hmem with hmem | hmem
  · obtain ⟨service, hservice, hfor⟩ := List.mem_flatMap.mp hmem
    obtain ⟨user, huser, rfl⟩ := List.mem_map.mp hservice
    obtain ⟨u, hu⟩ := List.mem_iff_getElem?.mp huser
    refine exists_step_of_tasks ha hu ?_ r
    rintro hnone
    rw [Work.waitingFor, hnone] at hfor
    cases hfor
  · obtain ⟨⟨serial, request⟩, hrequest, -⟩ := List.mem_map.mp hmem
    exact exists_step_of_request ha hrequest r

/-- **The client comes to an end with every call.**  Whatever a history has led to:
    with no further calls the client takes at most four steps for each completion
    that waits, and as long as one waits there is a step to take, whatever its
    surroundings give. -/
theorem run_settles {i : Installation α} {es fs : List (Event α κ)} {s t : Auth α κ}
    (hs : run (step expirationDate) (installed i) es = some s)
    (hown : Along (step expirationDate) (fun _ e => e.Own) s fs)
    (h : run (step expirationDate) s fs = some t) :
    fs.length ≤ 4 * s.work.waiting.length ∧
      (t.work.waiting ≠ [] → ∀ r : Surroundings α,
        ∃ e, r.Give e ∧ (t.step expirationDate e).isSome) := by
  have hwf := wellFormed_run hs
  have hrun : run (step expirationDate) (installed i) (es ++ fs) = some t := by
    rw [run_append, hs]
    exact h
  have hwf' := wellFormed_run hrun
  have halong := hown.and_invariant (fun a e b ha _ hb => (balance_step ha hb).2) hwf
  have hstep : ∀ (a : Auth α κ) (e : Event α κ) (b : Auth α κ), a.work.WellFormed ∧ e.Own →
      a.step expirationDate e = some b → b.work.stepsLeft < a.work.stepsLeft :=
    fun a e b ha hb => (work_own ha.2 hb).stepsLeft_lt ha.1
  have hlength := run_length_le hstep fs s t halong h
  refine ⟨?_, fun hwaiting r => exists_step_of_waiting hwf' hwaiting r⟩
  exact Nat.le_trans (Nat.le_add_right _ _) (Nat.le_trans hlength hwf.stepsLeft_le)

/-- Ann signs in and asks for a token and a reload; the app is launched again
    before they are there. -/
def annRelaunches : List (Event String Nat) :=
  .relaunch 0 {} :: (annSignsIn ++ [.relaunch 1 {}])

/-- Three completions are passed.  That of the sign-in is called; the other two
    are not, and do not wait any more: the launch has found them waiting. -/
theorem run_completed_annRelaunches :
    ∃ t, run (step twoHours) (installed newInstall) annRelaunches = some t ∧
      annRelaunches.flatMap Event.passed = [1, 2, 3] ∧
      t.completions.map UserCompletion.completion = [1] ∧ t.work.waiting = [] ∧
      (t.completions.map UserCompletion.completion : Multiset Nat) ≤
        annRelaunches.flatMap Event.passed ∧
      (((t.completions.map UserCompletion.completion : List Nat) : Multiset Nat) +
          t.work.waiting = annRelaunches.flatMap Event.passed ↔
        Along (step twoHours) (fun a e => a.lost e = []) (installed newInstall) annRelaunches) ∧
      ¬ Along (step twoHours) (fun a e => a.lost e = []) (installed newInstall) annRelaunches := by
  have h : (run (step twoHours) (installed newInstall) annRelaunches).map
      (fun t => (t.completions.map UserCompletion.completion, t.work.waiting)) =
        some ([1], []) := by
    decide +kernel
  obtain ⟨t, ht, hwork⟩ := Option.map_eq_some_iff.mp h
  obtain ⟨hcalled, hwaiting⟩ := Prod.mk.inj hwork
  have hpassed : annRelaunches.flatMap Event.passed = [1, 2, 3] := rfl
  obtain ⟨hle, hiff⟩ := run_completed ht
  refine ⟨t, ht, hpassed, hcalled, hwaiting, hle, hiff, ?_⟩
  rw [← hiff, hcalled, hwaiting, hpassed]
  decide

/-- The token is replaced, and the reload that waits for it makes its request. -/
theorem run_settles_tokenReplaced :
    ∃ s t, run (step twoHours) (installed newInstall) (.relaunch 0 {} :: annSignsIn) = some s ∧
      run (step twoHours) s tokenReplaced = some t ∧
      tokenReplaced.length ≤ 4 * s.work.waiting.length ∧
      (t.work.waiting ≠ [] → ∀ r : Surroundings String,
        ∃ e, r.Give e ∧ (t.step twoHours e).isSome) := by
  obtain ⟨u, hu⟩ := Option.isSome_iff_exists.mp isSome_tokenReplaced
  obtain ⟨t, ht, -⟩ := Option.bind_eq_some_iff.mp hu
  rw [← List.cons_append, run_append] at ht
  obtain ⟨s, hs, ht⟩ := Option.bind_eq_some_iff.mp ht
  have hown : Along (step twoHours) (fun _ e => e.Own) s tokenReplaced := by
    refine along_of_forall ?_ s
    simp [tokenReplaced, Event.Own]
  exact ⟨s, t, hs, ht, run_settles hs hown ht⟩

end Auth

end Spark.Firebase
