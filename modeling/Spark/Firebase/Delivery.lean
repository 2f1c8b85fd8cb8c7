/-
  Spark.Firebase.Delivery

  What becomes of the calls of `verifyPhoneNumber` in a run of the client, in
  whatever order requests are answered, timers fire, and tokens, notifications
  and URLs come in.

  Every call is at one place or has been dropped (`run_account_launched`): so no
  completion is called twice (`run_completions`), and none is lost exactly as
  long as no step drops a call (`run_delivered_iff`).  A call requests two
  verification codes at most, for its own number (`run_sends_le`).
-/

import Mathlib.Data.Multiset.OrderedMonoid
import Spark.Firebase.Handover

namespace Spark.Firebase

open Spark.Lib

namespace PhoneAuthProvider

variable {URL : Type} {P : Prop}

-- ============================================================================
-- Calls
-- ============================================================================

theorem issuedCalls_append (n : Nat) (l l' : List String) :
    issuedCalls n (l ++ l') = issuedCalls n l + issuedCalls (n + l.length) l' := by
  rw [issuedCalls, List.zipIdx_append, ← Multiset.coe_add, Multiset.map_add]
  rfl

/-- The serial numbers of the calls are those up to the last. -/
theorem serial_issuedCalls (phoneNumbers : List String) :
    (issuedCalls 0 phoneNumbers).map VerifyCall.serial = Multiset.range phoneNumbers.length := by
  rw [issuedCalls, Multiset.map_map]
  change ((phoneNumbers.zipIdx 0 : Multiset (String × Nat)).map Prod.snd) = _
  rw [Multiset.map_coe, List.zipIdx_map_snd, Multiset.range, List.range_eq_range']

theorem nodup_issuedCalls (phoneNumbers : List String) :
    ((issuedCalls 0 phoneNumbers).map VerifyCall.serial).Nodup := by
  rw [serial_issuedCalls]
  exact Multiset.nodup_range _

theorem mem_issuedCalls {phoneNumbers : List String} {call : VerifyCall} :
    call ∈ issuedCalls 0 phoneNumbers ↔ phoneNumbers[call.serial]? = some call.phoneNumber := by
  simp only [issuedCalls, Multiset.mem_map, Multiset.mem_coe, Prod.exists,
    List.mk_mem_zipIdx_iff_getElem?]
  constructor
  · rintro ⟨phoneNumber, serial, hmem, rfl⟩
    exact hmem
  · intro hmem
    exact ⟨call.phoneNumber, call.serial, hmem, rfl⟩

/-- A completed call is at its place. -/
theorem completions_le_places (s : PhoneAuthProvider URL) :
    (s.completions : Multiset Completion).map Completion.call ≤ s.places.map Place.call := by
  have hle : (s.completions : Multiset Completion).map (fun c => Place.completed c.call) ≤
      s.places := Multiset.le_add_left _ _
  have hmap := Multiset.map_le_map (f := Place.call) hle
  rwa [Multiset.map_map] at hmap

theorem completed_mem_places {s : PhoneAuthProvider URL} {c : Completion}
    (hc : c ∈ s.completions) : Place.completed c.call ∈ s.places :=
  Multiset.mem_add.mpr (.inr (Multiset.mem_map_of_mem _ hc))

theorem completing_mem_places {s : PhoneAuthProvider URL} {c : Completion}
    {rest : List (MainBlock URL)} (hqueue : s.mainQueue = .completion c :: rest) :
    Place.completing c.call ∈ s.places := by
  have hblock : MainBlock.completion c ∈ s.mainQueue := by
    rw [hqueue]
    exact List.mem_cons_self ..
  have hplace : Place.completing c.call ∈ (MainBlock.completion c : MainBlock URL).places :=
    Multiset.mem_singleton_self _
  simp only [places, Multiset.mem_add]
  exact .inl (.inr (Multiset.mem_bind.mpr ⟨_, hblock, hplace⟩))

-- ============================================================================
-- Requests for a verification code
-- ============================================================================

/-- The requests that a call may still make that far from its completion. -/
def allowance (rank : Nat) : Nat := if 12 < rank then 2 else if 2 < rank then 1 else 0

theorem allowance_mono {m n : Nat} (h : m < n) : allowance m ≤ allowance n := by
  simp only [allowance]
  split_ifs <;> omega

/-- A request takes one from what is allowed. -/
theorem allowance_sending {a : Attempt} {rank : Nat} (h : (Place.sending a).rank < rank) :
    1 + allowance (Place.sending a).rank ≤ allowance rank := by
  have hrank : (Place.sending a).rank = 12 ∨ (Place.sending a).rank = 2 := by
    simp only [Place.rank, Attempt.base]
    split
    · exact .inl rfl
    · exact .inr rfl
  rcases hrank with hrank | hrank
  · rw [hrank] at h ⊢
    simp [allowance, h]
  · rw [hrank] at h ⊢
    simp only [allowance]
    split_ifs <;> omega

/-- The requests that a call may still make from a place. -/
def budget (call : VerifyCall) (p : Place) : Nat := if p.call = call then allowance p.rank else 0

/-- A place further on is paid for. -/
theorem budget_onward (call : VerifyCall) (p q : Place) (h : p.Onward q) :
    Multiset.countAddMonoidHom call q.sends + budget call q ≤ budget call p := by
  obtain ⟨hcall, hrank⟩ := h
  rw [Multiset.coe_countAddMonoidHom, budget, budget, ← hcall]
  by_cases hof : q.call = call
  · rw [if_pos hof, if_pos hof]
    cases q with
    | sending a =>
        have hone : (Place.sending a).sends.count call = 1 := by
          rw [← hof]
          exact Multiset.count_singleton_self _
        rw [hone]
        exact allowance_sending hrank
    | _ => exact (Nat.zero_add _).trans_le (allowance_mono hrank)
  · rw [if_neg hof, if_neg hof]
    cases q with
    | sending a =>
        have hne : call ≠ a.call := fun h => hof h.symm
        exact (Multiset.count_singleton ..).trans_le (by rw [if_neg hne])
    | _ => exact Nat.le_refl 0

/-- New calls come with what they may request. -/
theorem budget_issued (call : VerifyCall) (calls : Multiset VerifyCall) :
    ((calls.map Place.issued).map (budget call)).sum = 2 * calls.count call := by
  induction calls using Multiset.induction with
  | empty => rfl
  | cons c calls ih =>
      have hone : budget call (.issued c) = if call = c then 2 else 0 := by
        simp only [budget, Place.call, eq_comm]
        rfl
      simp only [Multiset.map_cons, Multiset.sum_cons, Multiset.count_cons, ih, hone]
      split_ifs <;> omega

-- ============================================================================
-- Launches
-- ============================================================================

/-- The client of a launch; the app credential is that of the last one. -/
def launched (config : Configuration) (saved : Option SavedAppCredentials)
    (keychainAvailable : Bool) : PhoneAuthProvider URL where
  config := config
  appCredentialManager := .initWithKeychain saved keychainAvailable

section Runs

variable [NSURL URL] [Foundation]

theorem sound_launched (config : Configuration) (saved : Option SavedAppCredentials)
    (keychainAvailable : Bool) :
    (launched config saved keychainAvailable : PhoneAuthProvider URL).Sound P := by
  refine ⟨⟨Calls.Numbered.none_outstanding 0, ⟨?_, ?_, ?_⟩, fun _ => ⟨rfl, ?_, ?_⟩⟩, ?_⟩
  · intro hpending
    cases hpending
  · intro array callbacks hpending
    cases hpending
  · intro receipt hmem
    exact absurd hmem Finmap.notMem_empty
  · intro finish hfinish
    cases hfinish
  · intro finish hfinish
    cases hfinish
  · exact Nat.le_refl 0

-- ============================================================================
-- Accounts
-- ============================================================================

/-- The requests made for a call and those it may still make are two, if the
    call was made. -/
structure Budgeted (call : VerifyCall) (s : PhoneAuthProvider URL) : Prop where
  sound : s.Sound False
  le : s.sends.count call + (s.places.map (budget call)).sum ≤
    2 * (issuedCalls 0 s.calls).count call

/-- Every call is at one place at most. -/
structure Accounted (s : PhoneAuthProvider URL) : Prop where
  sound : s.Sound False
  le : s.places.map Place.call ≤ issuedCalls 0 s.calls

namespace Accounted

variable {s : PhoneAuthProvider URL}

theorem launched (config : Configuration) (saved : Option SavedAppCredentials)
    (keychainAvailable : Bool) :
    Accounted (launched config saved keychainAvailable : PhoneAuthProvider URL) :=
  ⟨sound_launched config saved keychainAvailable, Multiset.zero_le _⟩

/-- The call at a place has been made, for its number. -/
theorem getElem?_calls (hs : s.Accounted) {p : Place} (hp : p ∈ s.places) :
    s.calls[p.call.serial]? = some p.call.phoneNumber :=
  mem_issuedCalls.mp (Multiset.mem_of_le hs.le (Multiset.mem_map_of_mem _ hp))

/-- No two places have a call of one serial number. -/
theorem nodup_serial (hs : s.Accounted) : (s.places.map fun p => p.call.serial).Nodup := by
  have hnodup := Multiset.nodup_of_le (Multiset.map_le_map hs.le) (nodup_issuedCalls s.calls)
  rwa [Multiset.map_map] at hnodup

theorem serial_lt (hs : s.Accounted) {c : Completion} (hc : c ∈ s.completions) :
    c.call.serial < s.calls.length :=
  (List.getElem?_eq_some_iff.mp (hs.getElem?_calls (completed_mem_places hc))).1

/-- A call that is about to be completed has not been. -/
theorem notMem_completions (hs : s.Accounted) {call : VerifyCall}
    (hp : Place.completing call ∈ s.places) :
    call.serial ∉ s.completions.map fun c => c.call.serial := by
  intro hmem
  obtain ⟨c, hc, hserial⟩ := List.mem_map.mp hmem
  have hsame :=
    Multiset.inj_on_of_nodup_map hs.nodup_serial _ (completed_mem_places hc) _ hp hserial
  cases hsame

end Accounted

/-- The calls that a run drops. -/
def droppedAlong : PhoneAuthProvider URL → List (Event URL) → Multiset VerifyCall
  | _, [] => 0
  | s, e :: es =>
      (s.dropped e).map Place.call + ((s.step e).map fun t => droppedAlong t es).getD 0

theorem droppedAlong_cons {s t : PhoneAuthProvider URL} {e : Event URL} (ht : s.step e = some t)
    (es : List (Event URL)) :
    droppedAlong s (e :: es) = (s.dropped e).map Place.call + droppedAlong t es := by
  rw [droppedAlong, ht]
  rfl

/-- A step accounts for every call. -/
theorem step_account {s t : PhoneAuthProvider URL} {e : Event URL} (hs : s.Sound P)
    (hpage : P → s.FromPage e) (h : s.step e = some t) :
    t.places.map Place.call + (s.dropped e).map Place.call + issuedCalls 0 s.calls =
      s.places.map Place.call + issuedCalls 0 t.calls := by
  obtain ⟨taken, hsteps⟩ := step_moves hs hpage h
  have haccount : t.places.map Place.call + (s.dropped e).map Place.call =
      s.places.map Place.call +
        ((issuedCalls s.calls.length (made e)).map .issued).map Place.call :=
    hsteps.moves.account fun p q h => h.1
  have hissued : ((issuedCalls s.calls.length (made e)).map .issued).map Place.call =
      issuedCalls s.calls.length (made e) := by
    rw [Multiset.map_map]
    exact Multiset.map_id _
  rw [haccount, hissued, hsteps.calls, issuedCalls_append, zero_add]
  ac_rfl

theorem Accounted.step {s t : PhoneAuthProvider URL} {e : Event URL} (hs : s.Accounted)
    (h : s.step e = some t) : t.Accounted := by
  obtain ⟨taken, hsteps⟩ := step_moves hs.sound False.elim h
  refine ⟨hsteps.sound, ?_⟩
  have hstep := step_account hs.sound False.elim h
  have hle : s.places.map Place.call + t.places.map Place.call ≤
      s.places.map Place.call + issuedCalls 0 t.calls := by
    rw [← hstep, add_comm, add_assoc]
    refine add_le_add_right ?_ _
    exact hs.le.trans (Multiset.le_add_left _ _)
  exact le_of_add_le_add_left hle

/-- A run accounts for every call, from any state in which the places and `lost`
    do. -/
theorem account_along {s t : PhoneAuthProvider URL} {es : List (Event URL)} (hs : s.Sound False)
    {lost : Multiset VerifyCall} (haccount : s.places.map Place.call + lost = issuedCalls 0 s.calls)
    (h : run step s es = some t) :
    t.places.map Place.call + (lost + droppedAlong s es) = issuedCalls 0 t.calls := by
  induction es generalizing s lost with
  | nil =>
      obtain rfl := Option.some.inj h
      rw [droppedAlong, add_zero]
      exact haccount
  | cons e es ih =>
      obtain ⟨u, hu, hrest⟩ := run_cons_some h
      obtain ⟨taken, hsteps⟩ := step_moves hs False.elim hu
      have hstep := step_account hs False.elim hu
      have hbalance : u.places.map Place.call + (lost + (s.dropped e).map Place.call) =
          issuedCalls 0 u.calls := by
        rw [← haccount] at hstep
        refine add_left_cancel (a := s.places.map Place.call) ?_
        rw [← hstep]
        ac_rfl
      have hdone := ih hsteps.sound hbalance hrest
      rw [droppedAlong_cons hu, ← add_assoc lost]
      exact hdone

variable {config : Configuration} {saved : Option SavedAppCredentials} {keychainAvailable : Bool}

/-- **Every call is at one place, or a step has dropped it.** -/
theorem run_account_launched {es : List (Event URL)} {s : PhoneAuthProvider URL}
    (h : run step (launched config saved keychainAvailable) es = some s) :
    s.places.map Place.call + droppedAlong (launched config saved keychainAvailable) es =
      issuedCalls 0 s.calls := by
  have hlaunched : (launched config saved keychainAvailable :
      PhoneAuthProvider URL).places.map Place.call + 0 = issuedCalls 0 [] := rfl
  have hdone := account_along (sound_launched config saved keychainAvailable) hlaunched h
  rw [zero_add] at hdone
  exact hdone

/-- Nothing is dropped by a run exactly when no step drops anything. -/
theorem droppedAlong_eq_zero_iff {s t : PhoneAuthProvider URL} {es : List (Event URL)}
    (h : run step s es = some t) :
    droppedAlong s es = 0 ↔ Along step (fun s e => s.dropped e = 0) s es := by
  induction es generalizing s with
  | nil => exact iff_of_true rfl trivial
  | cons e es ih =>
      obtain ⟨u, hu, hrest⟩ := run_cons_some h
      rw [along_cons_iff hu, droppedAlong_cons hu, add_eq_zero, Multiset.map_eq_zero, ih hrest]

-- ============================================================================
-- Completions
-- ============================================================================

/-- **No completion is called twice.**  In any run the completions called have
    different serial numbers, and each is that of a call, with the call's
    number. -/
theorem run_completions {es : List (Event URL)} {s : PhoneAuthProvider URL}
    (h : run step (launched config saved keychainAvailable) es = some s) :
    (s.completions.map fun c => c.call.serial).Nodup ∧
      ∀ c ∈ s.completions, s.calls[c.call.serial]? = some c.call.phoneNumber := by
  have hs : s.Accounted :=
    run_invariant_all (fun s e t hs => hs.step) (.launched config saved keychainAvailable) h
  have hle : (s.completions : Multiset Completion).map Completion.call ≤ issuedCalls 0 s.calls :=
    (completions_le_places s).trans hs.le
  constructor
  · have hnodup := Multiset.nodup_of_le (Multiset.map_le_map hle) (nodup_issuedCalls s.calls)
    rw [Multiset.map_map] at hnodup
    exact Multiset.coe_nodup.mp hnodup
  · intro c hc
    exact mem_issuedCalls.mp (Multiset.mem_of_le hle (Multiset.mem_map_of_mem _ hc))

/-- **When no call is lost.**  After a run every call is at some place exactly
    when no step of the run has dropped one: started a verification with a
    receipt for which one is under way, or taken from the page a URL with
    neither a token nor an error. -/
theorem run_delivered_iff {es : List (Event URL)} {s : PhoneAuthProvider URL}
    (h : run step (launched config saved keychainAvailable) es = some s) :
    s.places.map Place.call = issuedCalls 0 s.calls ↔
      Along step (fun s e => s.dropped e = 0) (launched config saved keychainAvailable) es := by
  rw [← droppedAlong_eq_zero_iff h, ← run_account_launched h]
  exact left_eq_add

/-- **A call requests two verification codes at most.**  Every request of a run
    is for a call that was made and for its number, and no call makes more than
    two. -/
theorem run_sends_le {es : List (Event URL)} {s : PhoneAuthProvider URL}
    (h : run step (launched config saved keychainAvailable) es = some s) :
    s.sends ≤ 2 • issuedCalls 0 s.calls := by
  rw [Multiset.le_iff_count]
  intro call
  have hbudgeted : s.Budgeted call := by
    refine run_invariant_all ?_ ⟨sound_launched config saved keychainAvailable, Nat.le_refl 0⟩ h
    rintro s e t hs hstep
    obtain ⟨taken, hsteps⟩ := step_moves hs.sound False.elim hstep
    refine ⟨hsteps.sound, ?_⟩
    have hle := hs.le
    have hpaid : t.sends.count call + (t.places.map (budget call)).sum ≤
        s.sends.count call + (s.places.map (budget call)).sum +
          2 * (issuedCalls s.calls.length (made e)).count call := by
      rw [← budget_issued]
      exact hsteps.moves.potential_le (Multiset.countAddMonoidHom call) (budget_onward call)
    rw [hsteps.calls, issuedCalls_append, Multiset.count_add, zero_add]
    omega
  have hle := hbudgeted.le
  rw [Multiset.count_nsmul]
  omega

end Runs

-- ============================================================================
-- Sessions
-- ============================================================================

/-- The URLs of a session in which none is opened. -/
instance unopened : NSURL Unit where
  urlWithString _ := some ()
  hasBase _ _ _ _ := false
  query _ := none
  queryItems _ := []
  queryItemsOfString _ := []
  removingPercentEncoding text := some text

/-- How the page is left. -/
inductive Outcome
  | solved
  | refused

namespace Outcome

/-- The JSON of the page's error. -/
def refusal : String := "\x7b\"code\":\"c\"\x7d"

/-- The item of the page's deep link that says so. -/
def item : Outcome → String × Option String
  | .solved => ("recaptchaToken", some "t")
  | .refused => ("firebaseError", some refusal)

/-- The query of the deep link. -/
def query : Outcome → String
  | .solved => "authType=verifyApp&eventId=event-0&recaptchaToken=t"
  | .refused => "authType=verifyApp&eventId=event-0&firebaseError=%7B%22code%22:%22c%22%7D"

/-- The deep link. -/
def text (outcome : Outcome) : String := "x:?" ++ outcome.query

/-- The deep link in the query of the callback URL. -/
def encoded : Outcome → String
  | .solved => "x:?authType=verifyApp%26eventId=event-0%26recaptchaToken=t"
  | .refused =>
      "x:?authType=verifyApp%26eventId=event-0%26firebaseError=%257B%2522code%2522:%2522c%2522%257D"

end Outcome

/-- The URLs of a session in which the page is left. -/
inductive Link
  | callback (outcome : Outcome)
  | deepLink (outcome : Outcome)

namespace Link

def ofText (text : String) : Option Link :=
  if text = Outcome.text .solved then some (.deepLink .solved)
  else if text = Outcome.text .refused then some (.deepLink .refused)
  else none

def items : Link → List (String × Option String)
  | .callback outcome => [("deep_link_id", some outcome.text)]
  | .deepLink outcome =>
      [("authType", some "verifyApp"), ("eventId", some "event-0"), outcome.item]

end Link

instance links : NSURL Link where
  urlWithString := Link.ofText
  hasBase
    | .callback _, scheme, host, path =>
        scheme = "app-1-2-ios-3" && host = "firebaseauth" && path = "/link"
    | .deepLink _, scheme, host, path => scheme = "x" && host = "" && path = ""
  query
    | .callback outcome => some ("deep_link_id=" ++ outcome.encoded)
    | .deepLink outcome => some outcome.query
  queryItems := Link.items
  queryItemsOfString text := ((Link.ofText text).map Link.items).getD []
  removingPercentEncoding text :=
    if text = Outcome.encoded .solved then some (Outcome.text .solved)
    else if text = Outcome.encoded .refused then some (Outcome.text .refused)
    else if text = "%7B%22code%22:%22c%22%7D" then some Outcome.refusal
    else some text

/-- Foundation, as far as these sessions go. -/
instance unparsed : Foundation where
  jsonObject data :=
    if data = Outcome.refusal.toUTF8.toList then .ok (.dictionary {"code"} fun _ => .string "c")
    else .error ⟨3840⟩
  description _ := "(\n)"
  objectDescription _ := "<null>"
  errorDescription error := "Error Domain=NSCocoaErrorDomain Code=" ++ toString error.code
  replacingOccurrences text _ _ := text

def emulatorConfiguration : Configuration where
  callbackScheme := "app-1-2-ios-3"
  isAppVerificationDisabledForTesting := false
  emulatorHostAndPort := some "localhost:9099"
  detectedTokenType := .unknown
  randomString n := "event-" ++ toString n

/-- Notifications are forwarded, no push token comes in, and the page comes on
    screen. -/
def pageOnScreen (URL : Type) : List (Event URL) :=
  [.verifyPhoneNumber "+15550001",
   .notification fun key =>
     if key = "com.google.firebase.auth" then
       some (.dictionary {"warning"} fun _ => .string "prober")
     else none,
   .timer (.registration 0), .runMainQueue]

/-- Notifications are forwarded, no push token comes in, and the user closes the
    page. -/
def closedPage : List (Event Unit) :=
  [.verifyPhoneNumber "+15550001",
   .notification fun key =>
     if key = "com.google.firebase.auth" then
       some (.dictionary {"warning"} fun _ => .string "prober")
     else none,
   .timer (.registration 0), .runMainQueue, .safariViewControllerDidFinish 0, .runMainQueue]

/-- Its call is completed with an error, once. -/
theorem run_completions_closedPage :
    ∃ s : PhoneAuthProvider Unit,
      run step (launched emulatorConfiguration none true) closedPage = some s ∧
      s.completions = [⟨⟨0, "+15550001"⟩, none, some { code := .webContextCancelled }⟩] ∧
      (s.completions.map fun c => c.call.serial).Nodup := by
  have h : run step (launched emulatorConfiguration none true) closedPage = some _ := rfl
  exact ⟨_, h, rfl, (run_completions h).1⟩

/-- It is not lost, as no step drops it. -/
theorem run_delivered_closedPage :
    ∃ s : PhoneAuthProvider Unit,
      run step (launched emulatorConfiguration none true) closedPage = some s ∧
      (s.places.map Place.call = issuedCalls 0 s.calls ↔
        Along step (fun s e => s.dropped e = 0) (launched emulatorConfiguration none true)
          closedPage) :=
  ⟨_, rfl, run_delivered_iff rfl⟩

/-- It requests no verification code. -/
theorem run_sends_closedPage :
    ∃ s : PhoneAuthProvider Unit,
      run step (launched emulatorConfiguration none true) closedPage = some s ∧
      s.sent = [] ∧ s.sends ≤ 2 • issuedCalls 0 s.calls := by
  have h : run step (launched emulatorConfiguration none true) closedPage = some _ := rfl
  exact ⟨_, h, rfl, run_sends_le h⟩

end PhoneAuthProvider

end Spark.Firebase
