/-
  Spark.AuthManager

  The singleton `AuthManager.shared`: the verification ID of the phone sign-in
  and the calls that read and write it.

  `verifyPhoneNumber` and `signIn` answer later, through a closure.  The
  closures are the functions `verifyPhoneNumberCallback` and `signInCallback`;
  `PhoneAuth` is the manager together with the `verifyPhoneNumber` calls that
  have not been answered, over an arbitrary type of verification IDs and of
  completion closures.  Calls are issued by any controller and answered in any
  order, each with success or failure.

  The field is overwritten by every successful reply, so it holds the ID of
  the reply that arrived last (`verificationId_eq_last_arrived`), which is the
  ID of the call issued last exactly when that call's reply arrives last
  (`latestIssued_iff`).
-/

import Spark.Lib.Calls
import Spark.Lib.Run
import Spark.Platform.Foundation

namespace Spark

open Spark.Lib

-- ============================================================================
-- The manager and its closures
-- ============================================================================

structure AuthManager (ID : Type) where
  verificationId : Option ID := none

/-- `PhoneAuthProvider.provider().credential(withVerificationID:verificationCode:)`. -/
structure PhoneAuthCredential (ID : Type) where
  verificationId : ID
  verificationCode : String

/-- What `verifyCode` does: call its completion at once, or call `auth.signIn`. -/
inductive VerifyCode (ID : Type)
  | completion (success : Bool)
  | signIn (credential : PhoneAuthCredential ID)

namespace AuthManager

variable {ID : Type}

/-- The closure `startAuth` gives to `verifyPhoneNumber`: the manager after it
    and the argument of `completion`. -/
def verifyPhoneNumberCallback (m : AuthManager ID) (verificationId : Option ID)
    (error : Option NSError) : AuthManager ID × Bool :=
  match verificationId, error with
  | some verificationId, none => ({ m with verificationId := some verificationId }, true)
  | _, _ => (m, false)

def verifyCode (m : AuthManager ID) (smsCode : String) : VerifyCode ID :=
  match m.verificationId with
  | none => .completion false
  | some verificationId => .signIn ⟨verificationId, smsCode⟩

/-- The closure `verifyCode` gives to `auth.signIn`: the argument of `completion`. -/
def signInCallback {User : Type} (result : Option User) (error : Option NSError) : Bool :=
  match result, error with
  | some _, none => true
  | _, _ => false

/-- Only a reply with an ID and no error replaces the ID. -/
theorem verifyPhoneNumberCallback_failure {m : AuthManager ID} {verificationId : Option ID}
    {error : Option NSError} (h : verificationId = none ∨ error ≠ none) :
    m.verifyPhoneNumberCallback verificationId error = (m, false) := by
  rcases h with rfl | h
  · cases error <;> rfl
  · cases verificationId <;> cases error <;> first | rfl | exact absurd rfl h

end AuthManager

-- ============================================================================
-- The manager with its outstanding calls
-- ============================================================================

/-- `AuthManager.shared` and the `verifyPhoneNumber` calls not answered yet:
    the number each was made for and the completion passed to `startAuth`. -/
structure PhoneAuth (ID κ : Type) where
  shared : AuthManager ID := {}
  calls : Calls (String × κ) := {}

namespace PhoneAuth

variable {ID κ : Type}

def startAuth (a : PhoneAuth ID κ) (phoneNumber : String) (completion : κ) : PhoneAuth ID κ :=
  { a with calls := a.calls.issue (phoneNumber, completion) }

/-- The reply to the call with serial number `serial` arrives.  Returns the
    call's completion, the argument it is called with, and the new state. -/
def reply (a : PhoneAuth ID κ) (serial : Nat) (verificationId : Option ID)
    (error : Option NSError) : Option (κ × Bool × PhoneAuth ID κ) :=
  (a.calls.answer serial).map fun r =>
    let m := a.shared.verifyPhoneNumberCallback verificationId error
    (r.1.2, m.2, { shared := m.1, calls := r.2 })

/-- What happens to the manager: a controller calls `startAuth`, or a reply
    arrives. -/
inductive Event (ID κ : Type)
  | startAuth (phoneNumber : String) (completion : κ)
  | reply (serial : Nat) (verificationId : Option ID) (error : Option NSError)

def step (a : PhoneAuth ID κ) : Event ID κ → Option (PhoneAuth ID κ)
  | .startAuth phoneNumber completion => some (a.startAuth phoneNumber completion)
  | .reply serial verificationId error =>
      (a.reply serial verificationId error).map fun r => r.2.2

/-- The successful replies of a history in the order they arrived: the serial
    number of the call and the ID returned for it. -/
def succeeded : List (Event ID κ) → List (Nat × ID) :=
  List.filterMap fun
    | .reply serial (some verificationId) none => some (serial, verificationId)
    | _ => none

/-- What a reply does: the call it answers was outstanding, and the manager
    runs the closure. -/
theorem reply_some {a a' : PhoneAuth ID κ} {serial : Nat} {verificationId : Option ID}
    {error : Option NSError} {k : κ} {ok : Bool}
    (h : a.reply serial verificationId error = some (k, ok, a')) :
    ∃ n, a.calls.find? serial = some (n, k) ∧
      ok = (a.shared.verifyPhoneNumberCallback verificationId error).2 ∧
      a'.shared = (a.shared.verifyPhoneNumberCallback verificationId error).1 ∧
      a'.calls.issued = a.calls.issued ∧
      (∀ p, p ∈ a'.calls.outstanding ↔ p ∈ a.calls.outstanding ∧ p.1 ≠ serial) := by
  obtain ⟨⟨⟨n, k'⟩, calls⟩, hanswer, heq⟩ := Option.map_eq_some_iff.mp h
  obtain ⟨rfl, rfl, rfl⟩ := by simpa using heq
  obtain ⟨hfind, hissued, hrest⟩ := Calls.answer_some hanswer
  exact ⟨n, hfind, rfl, rfl, hissued, hrest⟩

/-- One event: a successful reply stores its ID, anything else keeps the ID. -/
theorem step_verificationId {a b : PhoneAuth ID κ} {e : Event ID κ} (h : a.step e = some b) :
    b.shared.verificationId =
      ((succeeded [e]).getLast?.map Prod.snd).or a.shared.verificationId := by
  cases e with
  | startAuth phoneNumber completion =>
      obtain rfl := Option.some.inj h
      rfl
  | reply serial verificationId error =>
      obtain ⟨⟨k, ok, a'⟩, hreply, rfl⟩ := Option.map_eq_some_iff.mp h
      obtain ⟨n, -, -, hshared, -, -⟩ := reply_some hreply
      rw [hshared]
      cases verificationId <;> cases error <;> rfl

/-- The ID after any history is the one the last successful reply brought, or
    the initial one if none did. -/
theorem run_verificationId (es : List (Event ID κ)) (a b : PhoneAuth ID κ)
    (h : run step a es = some b) :
    b.shared.verificationId =
      ((succeeded es).getLast?.map Prod.snd).or a.shared.verificationId := by
  induction es generalizing a with
  | nil =>
      obtain rfl := Option.some.inj h
      rfl
  | cons e es ih =>
      obtain ⟨u, hu, hrest⟩ := run_cons_some h
      have hsplit : succeeded (e :: es) = succeeded [e] ++ succeeded es := by
        simp only [succeeded]
        rw [← List.filterMap_append, List.singleton_append]
      rw [ih u hrest, step_verificationId hu, hsplit, List.getLast?_append, Option.map_or,
        Option.or_assoc]

-- ============================================================================
-- Which request the stored ID belongs to
-- ============================================================================

/-- `v` is the ID returned for the most recently issued call among the
    successful ones, `none` if there is none. -/
def LatestIssued (successes : List (Nat × ID)) : Option ID → Prop
  | none => successes = []
  | some verificationId =>
      ∃ serial, (serial, verificationId) ∈ successes ∧ ∀ p ∈ successes, p.1 ≤ serial

/-- From the first launch on, the ID is the one the last successful reply
    brought. -/
theorem run_verificationId_of_empty {es : List (Event ID κ)} {a : PhoneAuth ID κ}
    (h : run step {} es = some a) :
    a.shared.verificationId = (succeeded es).getLast?.map Prod.snd := by
  rw [run_verificationId es {} a h]
  exact Option.or_none

/-- When the successful call issued last is also answered last, its ID is the
    latest. -/
theorem latestIssued_getLast {successes : List (Nat × ID)} {last : Nat × ID}
    (hlast : successes.getLast? = some last) (hmax : ∀ p ∈ successes, p.1 ≤ last.1) :
    LatestIssued successes (successes.getLast?.map Prod.snd) := by
  rw [hlast]
  exact ⟨last.1, List.mem_of_getLast? hlast, hmax⟩

/-- **The stored ID is the one that arrived last.**  For every collection of
    `startAuth` calls and every order of their replies, the manager holds the
    ID of the successful reply that arrived last, `none` if there was none; a
    failed reply changes nothing; `verifyCode` checks a code against exactly
    that ID; and it is the ID of the successful call issued last whenever that
    call is answered last. -/
theorem verificationId_eq_last_arrived (es : List (Event ID κ)) (a : PhoneAuth ID κ)
    (h : run step {} es = some a) :
    a.shared.verificationId = (succeeded es).getLast?.map Prod.snd ∧
    (∀ serial verificationId error b, verificationId = none ∨ error ≠ none →
      a.step (.reply serial verificationId error) = some b → b.shared = a.shared) ∧
    (∀ smsCode, a.shared.verifyCode smsCode =
      match (succeeded es).getLast? with
      | none => .completion false
      | some (_, verificationId) => .signIn ⟨verificationId, smsCode⟩) ∧
    (∀ last, (succeeded es).getLast? = some last → (∀ p ∈ succeeded es, p.1 ≤ last.1) →
      LatestIssued (succeeded es) a.shared.verificationId) := by
  have hid := run_verificationId_of_empty h
  refine ⟨hid, ?_, ?_, ?_⟩
  · intro serial verificationId error b hfail hstep
    obtain ⟨⟨k, ok, b'⟩, hreply, rfl⟩ := Option.map_eq_some_iff.mp hstep
    obtain ⟨n, -, -, hshared, -, -⟩ := reply_some hreply
    rw [hshared, AuthManager.verifyPhoneNumberCallback_failure hfail]
  · intro smsCode
    rw [AuthManager.verifyCode, hid]
    cases (succeeded es).getLast? <;> rfl
  · intro last hlast hmax
    rw [hid]
    exact latestIssued_getLast hlast hmax

/-- Two numbers are requested one after the other; the second request is
    answered, then the first. -/
def overtakenReplies : List (Event String Unit) :=
  [.startAuth "5550001" (), .startAuth "5550002" (),
   .reply 1 (some "id-of-5550002") none, .reply 0 (some "id-of-5550001") none]

/-- The theorem at these replies: the ID that arrived last is the first number's. -/
theorem verificationId_eq_last_arrived_overtaken :
    ∃ a : PhoneAuth String Unit,
      run step {} overtakenReplies = some a ∧
      a.shared.verificationId = (succeeded overtakenReplies).getLast?.map Prod.snd :=
  ⟨_, rfl, (verificationId_eq_last_arrived overtakenReplies _ rfl).1⟩

/-- When an earlier request is answered after a later one, the manager is left
    with the ID of the earlier request. -/
theorem overtaken_reply_not_latestIssued :
    ∃ a : PhoneAuth String Unit,
      run step {} overtakenReplies = some a ∧ a.calls.outstanding = [] ∧
      a.shared.verificationId = some "id-of-5550001" ∧
      ¬ LatestIssued (succeeded overtakenReplies) a.shared.verificationId := by
  refine ⟨_, rfl, rfl, rfl, ?_⟩
  rintro ⟨serial, hmem, hmax⟩
  have hserial : serial = 0 := by simpa [succeeded, overtakenReplies] using hmem
  have hle : 1 ≤ serial := hmax (1, "id-of-5550002") (by simp [succeeded, overtakenReplies])
  omega

/-- The stored ID is that of the most recently issued successful call exactly
    when no call answered before it was issued after it; IDs of different
    calls are different. -/
theorem latestIssued_iff (es : List (Event ID κ)) (a : PhoneAuth ID κ)
    (h : run step {} es = some a)
    (hinj : ∀ p ∈ succeeded es, ∀ q ∈ succeeded es, p.2 = q.2 → p.1 = q.1) :
    LatestIssued (succeeded es) a.shared.verificationId ↔
      ∀ last ∈ (succeeded es).getLast?, ∀ p ∈ succeeded es, p.1 ≤ last.1 := by
  rw [run_verificationId_of_empty h]
  constructor
  · intro hlatest last hlast p hp
    rw [Option.mem_def.mp hlast] at hlatest
    obtain ⟨serial, hserial, hmax⟩ := hlatest
    have heq : serial = last.1 :=
      hinj (serial, last.2) hserial last (List.mem_of_getLast? hlast) rfl
    exact heq ▸ hmax p hp
  · intro hmax
    cases hlast : (succeeded es).getLast? with
    | none => simpa [LatestIssued] using hlast
    | some last => exact hlast ▸ latestIssued_getLast hlast (hmax last hlast)

end PhoneAuth

end Spark
