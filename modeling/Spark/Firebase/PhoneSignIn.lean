/-
  Spark.Firebase.PhoneSignIn

  `AuthManager` on top of the client: `startAuth` calls `verifyPhoneNumber`, and
  the completion it passes is called from the main queue.

  What `PhoneAuth` takes for granted of `verifyPhoneNumber` holds of the client:
  its calls and answers, in the order they come (`events`), are a run of
  `PhoneAuth`, in which a call is answered at most once, after it was made, and
  in any order (`run_phoneAuth`).
-/

import Spark.AuthManager
import Spark.Firebase.Delivery
import Spark.Lib.Emission

namespace Spark.Firebase

open Spark.Lib

/-- The manager and the client it calls. -/
structure PhoneSignIn (URL : Type) where
  provider : PhoneAuthProvider URL
  shared : AuthManager String := {}

namespace PhoneSignIn

variable {URL : Type}

-- ============================================================================
-- Steps
-- ============================================================================

section Steps

variable [NSURL URL] [Foundation] (nsError : AuthError → NSError)

/-- The completion of `startAuth` runs. -/
def completed (m : AuthManager String) (c : Completion) : AuthManager String :=
  (m.verifyPhoneNumberCallback c.verificationID (c.error.map nsError)).1

/-- A step of the client; `startAuth` is its event `verifyPhoneNumber`. -/
def step (a : PhoneSignIn URL) (e : PhoneAuthProvider.Event URL) : Option (PhoneSignIn URL) :=
  (a.provider.step e).map fun provider =>
    { provider, shared := (a.provider.called e).foldl (completed nsError) a.shared }

end Steps

-- ============================================================================
-- The calls of the client
-- ============================================================================

/-- The calls that have not been answered. -/
def pending (calls : List String) (answered : List Nat) : List (Nat × String × Unit) :=
  (calls.zipIdx.filter fun p => p.2 ∉ answered).map fun p => (p.2, p.1, ())

/-- The manager and its calls, as `PhoneAuth` has them. -/
def phoneAuth (a : PhoneSignIn URL) : PhoneAuth String Unit where
  shared := a.shared
  calls.issued := a.provider.calls.length
  calls.outstanding := pending a.provider.calls (a.provider.completions.map (·.call.serial))

theorem pending_append {calls : List String} {answered : List Nat}
    (hissued : ∀ n ∈ answered, n < calls.length) (phoneNumber : String) :
    pending (calls ++ [phoneNumber]) answered =
      pending calls answered ++ [(calls.length, phoneNumber, ())] := by
  have hnew : calls.length ∉ answered := fun h => Nat.lt_irrefl _ (hissued _ h)
  simp [pending, List.zipIdx_append, List.filter_append, hnew]

theorem pending_answered (calls : List String) (answered : List Nat) (n : Nat) :
    pending calls (answered ++ [n]) = (pending calls answered).filter fun q => q.1 != n := by
  simp only [pending, List.filter_map, List.filter_filter]
  congr 1
  apply List.filter_congr
  intro p _
  rw [Bool.eq_iff_iff]
  simp [and_comm]

/-- A call that has been made and not answered is outstanding. -/
theorem find?_pending {calls : List String} {answered : List Nat} {call : VerifyCall}
    (hcall : calls[call.serial]? = some call.phoneNumber) (hopen : call.serial ∉ answered) :
    ((pending calls answered).find? fun q => q.1 == call.serial) =
      some (call.serial, call.phoneNumber, ()) := by
  have hmem : (call.serial, call.phoneNumber, ()) ∈ pending calls answered := by
    refine List.mem_map.mpr ⟨(call.phoneNumber, call.serial), List.mem_filter.mpr ⟨?_, ?_⟩, rfl⟩
    · exact List.mk_mem_zipIdx_iff_getElem?.mpr hcall
    · simpa using hopen
  obtain ⟨q, hq⟩ : ∃ q, ((pending calls answered).find? fun q => q.1 == call.serial) = some q :=
    Option.isSome_iff_exists.mp (List.find?_isSome.mpr ⟨_, hmem, beq_self_eq_true _⟩)
  obtain ⟨p, hp, rfl⟩ := List.mem_map.mp (List.mem_of_find?_eq_some hq)
  have hserial : p.2 = call.serial := by simpa using List.find?_some hq
  have hnumber := List.mk_mem_zipIdx_iff_getElem?.mp (List.mem_filter.mp hp).1
  rw [hserial, hcall] at hnumber
  rw [hq, hserial, Option.some.inj hnumber]

-- ============================================================================
-- Runs
-- ============================================================================

section Runs

variable [NSURL URL] [Foundation] {nsError : AuthError → NSError}

/-- The client answers a call. -/
theorem phoneAuth_reply {nsError : AuthError → NSError} {a b : PhoneSignIn URL} {c : Completion}
    (hs : a.provider.Accounted) (hplace : Place.completing c.call ∈ a.provider.places)
    (hcalls : b.provider.calls = a.provider.calls)
    (hcompletions : b.provider.completions = a.provider.completions ++ [c])
    (hshared : b.shared = completed nsError a.shared c) :
    a.phoneAuth.step (.reply c.call.serial c.verificationID (c.error.map nsError)) =
      some b.phoneAuth := by
  have hfind : a.phoneAuth.calls.find? c.call.serial = some (c.call.phoneNumber, ()) :=
    congrArg (Option.map Prod.snd)
      (find?_pending (hs.getElem?_calls hplace) (hs.notMem_completions hplace))
  have hrest : pending a.provider.calls (b.provider.completions.map (·.call.serial)) =
      (pending a.provider.calls (a.provider.completions.map (·.call.serial))).filter
        fun q => q.1 != c.call.serial := by
    rw [hcompletions, List.map_append, List.map_singleton, pending_answered]
  rw [PhoneAuth.step, PhoneAuth.reply, Calls.answer, hfind]
  simp only [Option.map_some, phoneAuth, hrest, hcalls, hshared, completed]

/-- What `PhoneAuth` sees of a step: the calls made, and the completions called
    with their arguments. -/
def events (nsError : AuthError → NSError) (a : PhoneSignIn URL)
    (e : PhoneAuthProvider.Event URL) : List (PhoneAuth.Event String Unit) :=
  (PhoneAuthProvider.made e).map (fun phoneNumber => .startAuth phoneNumber ()) ++
    (a.provider.called e).map fun c =>
      .reply c.call.serial c.verificationID (c.error.map nsError)

/-- What `PhoneAuth` sees of a step is a run of it. -/
theorem step_phoneAuth {a b : PhoneSignIn URL} {e : PhoneAuthProvider.Event URL}
    (hs : a.provider.Accounted) (h : step nsError a e = some b) :
    run PhoneAuth.step a.phoneAuth (events nsError a e) = some b.phoneAuth := by
  obtain ⟨t, ht, rfl⟩ := Option.map_eq_some_iff.mp h
  obtain ⟨taken, hsteps⟩ := PhoneAuthProvider.step_moves hs.sound False.elim ht
  have hcalls := hsteps.calls
  have hcompletions := hsteps.completions
  -- a step that makes no call and completes none
  have hsame : PhoneAuthProvider.made e = [] → a.provider.called e = [] →
      run PhoneAuth.step a.phoneAuth (events nsError a e) = some (phoneAuth
        { provider := t, shared := (a.provider.called e).foldl (completed nsError) a.shared }) := by
    intro hmade hcalled
    rw [hmade, List.append_nil] at hcalls
    rw [hcalled, List.append_nil] at hcompletions
    simp only [events, run, phoneAuth, hmade, hcalled, List.map_nil, List.append_nil, List.foldl_nil,
      hcalls, hcompletions]
  cases e with
  | verifyPhoneNumber phoneNumber =>
      have hissued : ∀ n ∈ a.provider.completions.map (·.call.serial),
          n < a.provider.calls.length := by
        intro n hn
        obtain ⟨c, hc, rfl⟩ := List.mem_map.mp hn
        exact hs.serial_lt hc
      have hcompletions : t.completions = a.provider.completions :=
        hcompletions.trans (List.append_nil _)
      have hcalls : t.calls = a.provider.calls ++ [phoneNumber] := hcalls
      change run PhoneAuth.step a.phoneAuth [.startAuth phoneNumber ()] = _
      simp only [run, PhoneAuth.step, PhoneAuth.startAuth, Calls.issue, phoneAuth, hcalls,
        hcompletions, pending_append hissued, List.length_append, List.length_singleton,
        Option.bind_some, PhoneAuthProvider.called, List.foldl_nil]
  | runMainQueue =>
      cases hqueue : a.provider.mainQueue with
      | nil => exact hsame rfl (by rw [PhoneAuthProvider.called, hqueue]; rfl)
      | cons block rest =>
          have hcalled : a.provider.called .runMainQueue = block.called := by
            rw [PhoneAuthProvider.called, hqueue]
            rfl
          cases block with
          | completion c =>
              have hplace := PhoneAuthProvider.completing_mem_places hqueue
              have hcalls : t.calls = a.provider.calls := hcalls.trans (List.append_nil _)
              have hcompletions : t.completions = a.provider.completions ++ [c] :=
                hcompletions.trans (congrArg (a.provider.completions ++ ·) hcalled)
              have hevents : events nsError a .runMainQueue =
                  [.reply c.call.serial c.verificationID (c.error.map nsError)] := by
                rw [events, hcalled]
                rfl
              rw [hevents, run_cons, phoneAuth_reply (b := ⟨t, _⟩) hs hplace hcalls hcompletions rfl,
                hcalled]
              rfl
          | _ => exact hsame rfl hcalled
  | _ => exact hsame rfl rfl

variable {config : Configuration} {saved : Option SavedAppCredentials} {keychainAvailable : Bool}

/-- **The client is what `PhoneAuth` takes it for.**  The calls and the answers of
    every run of the manager on top of the client, in the order they come, are a
    run of `PhoneAuth`, to a state with the same manager and the same calls: none
    is answered twice or before it is made.  The manager holds the ID of the
    successful answer that came last. -/
theorem run_phoneAuth {es : List (PhoneAuthProvider.Event URL)} {a : PhoneSignIn URL}
    (h : run (step nsError) ⟨.launched config saved keychainAvailable, {}⟩ es = some a) :
    run PhoneAuth.step {} (emitted (step nsError) (events nsError)
      ⟨.launched config saved keychainAvailable, {}⟩ es) = some a.phoneAuth ∧
      a.shared.verificationId =
        (PhoneAuth.succeeded (emitted (step nsError) (events nsError)
          ⟨.launched config saved keychainAvailable, {}⟩ es)).getLast?.map Prod.snd := by
  have haccounted : Along (step nsError) (fun a _ => a.provider.Accounted)
      ⟨.launched config saved keychainAvailable, {}⟩ es := by
    refine along_of_invariant ?_ (.launched config saved keychainAvailable) es
    intro a e b hs hb
    obtain ⟨t, ht, rfl⟩ := Option.map_eq_some_iff.mp hb
    exact hs.step ht
  have hrun := run_emitted (fun a e b hs hb => step_phoneAuth hs hb) es _ a haccounted h
  exact ⟨hrun, PhoneAuth.run_verificationId_of_empty hrun⟩

end Runs

/-- The user solves the page, and the backend sends a code. -/
def solvedPage : List (PhoneAuthProvider.Event PhoneAuthProvider.Link) :=
  PhoneAuthProvider.pageOnScreen _ ++
    [.openURL (.callback .solved), .runMainQueue, .dismissed,
     .backendReply 0 (.verificationCode (.ok (some "id"))), .runMainQueue]

/-- The manager holds the ID of the one answer of this session. -/
theorem run_phoneAuth_solvedPage :
    ∃ a : PhoneSignIn PhoneAuthProvider.Link,
      run (step fun _ => ⟨17999⟩) ⟨.launched PhoneAuthProvider.emulatorConfiguration none true, {}⟩
        solvedPage = some a ∧
      a.shared.verificationId = some "id" ∧
      a.shared.verificationId =
        (PhoneAuth.succeeded (emitted (step fun _ => ⟨17999⟩) (events fun _ => ⟨17999⟩)
          ⟨.launched PhoneAuthProvider.emulatorConfiguration none true, {}⟩
          solvedPage)).getLast?.map Prod.snd := by
  have h : (run (step fun _ => ⟨17999⟩)
      ⟨.launched PhoneAuthProvider.emulatorConfiguration none true, {}⟩ solvedPage).map
        (fun a => a.shared.verificationId) = some (some "id") := by
    decide +kernel
  obtain ⟨a, ha, hid⟩ := Option.map_eq_some_iff.mp h
  exact ⟨a, ha, hid, (run_phoneAuth ha).2⟩

end PhoneSignIn

end Spark.Firebase
