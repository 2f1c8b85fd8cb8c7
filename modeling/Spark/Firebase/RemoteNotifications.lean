/-
  Spark.Firebase.RemoteNotifications

  The two managers that wait for the application: `FIRAuthAPNSTokenManager` for
  a push token, `FIRAuthNotificationManager` for the prober notification that
  shows that notifications are forwarded.

  Both keep an array of pending callbacks that are called together.  The array
  is taken out before it is called, so a callback may ask again.  What the
  callbacks do is not known here: they are the type parameter, an operation
  returns those it calls, and its caller calls them in order.
-/

import Spark.Platform.JSON

namespace Spark.Firebase

-- ============================================================================
-- The push token
-- ============================================================================

inductive APNSTokenType
  | unknown
  | sandbox
  | prod
  deriving DecidableEq, Repr

structure APNSToken where
  data : Data
  type : APNSTokenType
  deriving DecidableEq, Repr

/-- `pendingCallbacks` is an array and its identity, which the timeout compares;
    `allocated` counts the arrays made. -/
structure APNSTokenManager (κ : Type) where
  token : Option APNSToken := none
  pendingCallbacks : Option (Nat × List κ) := none
  allocated : Nat := 0

namespace APNSTokenManager

variable {κ : Type}

/-- The callbacks that wait. -/
def waiting (m : APNSTokenManager κ) : List κ := (m.pendingCallbacks.map Prod.snd).getD []

/-- What `getTokenWithCallback:` does with a callback. -/
inductive GetToken (κ : Type)
  /-- It is called at once. -/
  | token (token : APNSToken)
  /-- It joins the callbacks that wait. -/
  | joined (m : APNSTokenManager κ)
  /-- It is the first; the timeout is armed for the new array. -/
  | started (m : APNSTokenManager κ) (applicableCallbacks : Nat)

def getTokenWithCallback (m : APNSTokenManager κ) (callback : κ) : GetToken κ :=
  match m.token, m.pendingCallbacks with
  | some token, _ => .token token
  | none, some (array, callbacks) =>
      .joined { m with pendingCallbacks := some (array, callbacks ++ [callback]) }
  | none, none =>
      .started { m with pendingCallbacks := some (m.allocated, [callback]),
                        allocated := m.allocated + 1 } m.allocated

/-- `callBackWithToken:error:`, the callbacks it calls and the manager meanwhile. -/
def callBack (m : APNSTokenManager κ) : List κ × APNSTokenManager κ :=
  (m.waiting, { m with pendingCallbacks := none })

/-- `setToken:`; a token of unknown type gets the detected type. -/
def setToken (m : APNSTokenManager κ) (detectedTokenType : APNSTokenType)
    (token : Option APNSToken) : List κ × APNSTokenManager κ :=
  match token with
  | none => ([], { m with token := none })
  | some token =>
      let token := if token.type = .unknown then { token with type := detectedTokenType } else token
      { m with token := some token }.callBack

/-- The block that `getTokenWithCallback:` dispatches after the timeout. -/
def timeout (m : APNSTokenManager κ) (applicableCallbacks : Nat) :
    List κ × APNSTokenManager κ :=
  if m.pendingCallbacks.map Prod.fst = some applicableCallbacks then m.callBack else ([], m)

/-- A callback joins an array that waits. -/
theorem getTokenWithCallback_joined {m m' : APNSTokenManager κ} {callback : κ}
    (h : m.getTokenWithCallback callback = .joined m') :
    ∃ array callbacks, m.pendingCallbacks = some (array, callbacks) ∧
      m'.pendingCallbacks = some (array, callbacks ++ [callback]) := by
  rw [getTokenWithCallback] at h
  split at h
  · cases h
  · rename_i array callbacks htoken hpending
    obtain rfl := GetToken.joined.inj h
    exact ⟨array, callbacks, hpending, rfl⟩
  · cases h

/-- The first callback starts an array. -/
theorem getTokenWithCallback_started {m m' : APNSTokenManager κ} {callback : κ} {array : Nat}
    (h : m.getTokenWithCallback callback = .started m' array) :
    m.pendingCallbacks = none ∧ m'.pendingCallbacks = some (array, [callback]) := by
  rw [getTokenWithCallback] at h
  split at h
  · cases h
  · cases h
  · rename_i htoken hpending
    obtain ⟨rfl, rfl⟩ := GetToken.started.inj h
    exact ⟨hpending, rfl⟩

/-- A callback that is not called at once waits behind the others. -/
theorem waiting_joined {m m' : APNSTokenManager κ} {callback : κ}
    (h : m.getTokenWithCallback callback = .joined m') : m'.waiting = m.waiting ++ [callback] := by
  obtain ⟨array, callbacks, hm, hm'⟩ := getTokenWithCallback_joined h
  simp [waiting, hm, hm']

theorem waiting_started {m m' : APNSTokenManager κ} {callback : κ} {array : Nat}
    (h : m.getTokenWithCallback callback = .started m' array) :
    m'.waiting = m.waiting ++ [callback] := by
  obtain ⟨hm, hm'⟩ := getTokenWithCallback_started h
  simp [waiting, hm, hm']

@[simp] theorem waiting_callBack (m : APNSTokenManager κ) : m.callBack.2.waiting = [] := rfl

@[simp] theorem callBack_fst (m : APNSTokenManager κ) : m.callBack.1 = m.waiting := rfl

end APNSTokenManager

-- ============================================================================
-- Notifications
-- ============================================================================

/-- A remote notification addressed to the client. -/
inductive AuthNotification
  | prober
  /-- The object under the key of the secret is not looked at. -/
  | credential (receipt : String) (secret : Option JSONObject)

/-- What `canHandleNotification:` makes of a notification; its last type check
    is of the receipt again, not of the secret. -/
def authNotification? [Foundation] (notification : String → Option JSONObject) :
    Option AuthNotification :=
  let data : Option (String → Option JSONObject) :=
    match notification "com.google.firebase.auth" with
    | some (.string text) =>
        (Foundation.jsonObjectWithoutFragments text.toUTF8.toList).toOption.bind
          JSONObject.dictionary?
    | some data => data.dictionary?
    | none => none
  data.bind fun data =>
    if (data "warning").isSome then some .prober
    else ((data "receipt").bind JSONObject.string?).map fun receipt =>
      .credential receipt (data "secret")

structure NotificationManager (κ : Type) where
  hasCheckedNotificationForwarding : Bool := false
  isNotificationBeingForwarded : Bool := false
  pendingCallbacks : Option (List κ) := none

namespace NotificationManager

variable {κ : Type}

/-- The callbacks that wait. -/
def waiting (m : NotificationManager κ) : List κ := m.pendingCallbacks.getD []

/-- What `checkNotificationForwardingWithCallback:` does with a callback. -/
inductive Check (κ : Type)
  /-- It is called at once. -/
  | checked (isNotificationBeingForwarded : Bool)
  /-- It joins the callbacks that wait. -/
  | joined (m : NotificationManager κ)
  /-- It is the first; the prober is sent and the timeout armed. -/
  | started (m : NotificationManager κ)

def checkNotificationForwarding (m : NotificationManager κ) (callback : κ) : Check κ :=
  match m.pendingCallbacks with
  | some callbacks => .joined { m with pendingCallbacks := some (callbacks ++ [callback]) }
  | none =>
      if m.hasCheckedNotificationForwarding then .checked m.isNotificationBeingForwarded
      else .started { m with hasCheckedNotificationForwarding := true,
                             pendingCallbacks := some [callback] }

/-- `callBack`, the callbacks it calls and the manager meanwhile. -/
def callBack (m : NotificationManager κ) : List κ × NotificationManager κ :=
  (m.waiting, { m with pendingCallbacks := none })

/-- The branch of `canHandleNotification:` for the prober; one that comes while
    nothing is checked is passed along. -/
def canHandleProber (m : NotificationManager κ) : Option (List κ × NotificationManager κ) :=
  if m.pendingCallbacks.isSome then some { m with isNotificationBeingForwarded := true }.callBack
  else none

/-- A callback joins an array that waits. -/
theorem checkNotificationForwarding_joined {m m' : NotificationManager κ} {callback : κ}
    (h : m.checkNotificationForwarding callback = .joined m') :
    ∃ callbacks, m.pendingCallbacks = some callbacks ∧
      m' = { m with pendingCallbacks := some (callbacks ++ [callback]) } := by
  rw [checkNotificationForwarding] at h
  split at h
  · rename_i callbacks hpending
    exact ⟨callbacks, hpending, (Check.joined.inj h).symm⟩
  · split at h <;> cases h

/-- The first callback starts the check. -/
theorem checkNotificationForwarding_started {m m' : NotificationManager κ} {callback : κ}
    (h : m.checkNotificationForwarding callback = .started m') :
    m.pendingCallbacks = none ∧ m.hasCheckedNotificationForwarding = false ∧
      m' = { m with
        hasCheckedNotificationForwarding := true, pendingCallbacks := some [callback] } := by
  rw [checkNotificationForwarding] at h
  split at h
  · cases h
  · rename_i hpending
    split at h
    · cases h
    · rename_i hchecked
      exact ⟨hpending, Bool.eq_false_iff.mpr hchecked, (Check.started.inj h).symm⟩

/-- A callback that is not called at once waits behind the others. -/
theorem waiting_joined {m m' : NotificationManager κ} {callback : κ}
    (h : m.checkNotificationForwarding callback = .joined m') :
    m'.waiting = m.waiting ++ [callback] := by
  obtain ⟨callbacks, hm, rfl⟩ := checkNotificationForwarding_joined h
  simp [waiting, hm]

theorem waiting_started {m m' : NotificationManager κ} {callback : κ}
    (h : m.checkNotificationForwarding callback = .started m') :
    m'.waiting = m.waiting ++ [callback] := by
  obtain ⟨hm, -, rfl⟩ := checkNotificationForwarding_started h
  simp [waiting, hm]

@[simp] theorem waiting_callBack (m : NotificationManager κ) : m.callBack.2.waiting = [] := rfl

@[simp] theorem callBack_fst (m : NotificationManager κ) : m.callBack.1 = m.waiting := rfl

end NotificationManager

end Spark.Firebase
