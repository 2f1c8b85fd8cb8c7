/-
  Spark.Firebase.AppCredentialManager

  `FIRAuthAppCredentialManager`: the receipts of the verifications under way,
  the callbacks that wait for their secrets, and the app credential that the
  last secret completed, kept in the keychain from launch to launch.

  A run takes a manager through its operations, through launches, and through
  times when the keychain refuses to answer.  The receipts are distinct
  and at most 32 (`run_wellFormed`); a receipt is redeemed no more often than
  a verification was started with it, so a notification delivered again is
  refused, unless the keychain has missed a redemption (`run_redeemed_le`);
  and what a launch loads is what the last one held (`run_saved`).
-/

import Mathlib.Data.Finmap
import Spark.Lib.Tally
import Spark.Platform.JSON

namespace Spark.Firebase

open Spark.Lib

-- ============================================================================
-- The manager
-- ============================================================================

/-- A receipt and its secret, an object of any class. -/
structure AppCredential where
  receipt : String
  secret : Option JSONObject := none

/-- The keychain item `app_credentials`. -/
structure SavedAppCredentials where
  fullCredential : Option AppCredential
  pendingReceipts : List String

def maximumNumberOfPendingReceipts : Nat := 32

/-- `saved` is the keychain item; while `keychainAvailable` is false the
    keychain answers every request with an error, which `saveData` ignores. -/
structure AppCredentialManager (κ : Type) where
  credential : Option AppCredential := none
  pendingReceipts : List String := []
  callbacksByReceipt : Finmap fun _ : String => κ := ∅
  saved : Option SavedAppCredentials := none
  keychainAvailable : Bool := true

namespace AppCredentialManager

variable {κ : Type}

def initWithKeychain (saved : Option SavedAppCredentials) (keychainAvailable : Bool) :
    AppCredentialManager κ :=
  let loaded := if keychainAvailable then saved else none
  { credential := loaded.bind SavedAppCredentials.fullCredential
    pendingReceipts := (loaded.map SavedAppCredentials.pendingReceipts).getD []
    saved, keychainAvailable }

def saveData (m : AppCredentialManager κ) : AppCredentialManager κ :=
  if m.keychainAvailable then { m with saved := some ⟨m.credential, m.pendingReceipts⟩ } else m

/-- The receipts after `removeObject:`, the eviction of the oldest, and
    `addObject:`. -/
def recorded (receipts : List String) (receipt : String) : List String :=
  let receipts := receipts.filter (· ≠ receipt)
  (if receipts.length ≥ maximumNumberOfPendingReceipts then receipts.tail else receipts) ++
    [receipt]

/-- `didStartVerificationWithReceipt:timeout:callback:`; the caller arms the
    timeout. -/
def didStartVerification (m : AppCredentialManager κ) (receipt : String) (callback : κ) :
    AppCredentialManager κ :=
  { m with
    pendingReceipts := recorded m.pendingReceipts receipt
    callbacksByReceipt := m.callbacksByReceipt.insert receipt callback }.saveData

/-- `callBackWithReceipt:`, the callback it calls and the credential it calls
    it with. -/
def callBackWithReceipt (m : AppCredentialManager κ) (receipt : String) :
    Option (κ × AppCredential) × AppCredentialManager κ :=
  match m.callbacksByReceipt.lookup receipt with
  | none => (none, m)
  | some callback =>
      (some (callback, m.credential.getD { receipt }),
        { m with callbacksByReceipt := m.callbacksByReceipt.erase receipt })

/-- `canFinishVerificationWithReceipt:secret:`; `none` for `NO`. -/
def canFinishVerification (m : AppCredentialManager κ) (receipt : String)
    (secret : Option JSONObject) :
    Option (Option (κ × AppCredential) × AppCredentialManager κ) :=
  if receipt ∈ m.pendingReceipts then
    some (callBackWithReceipt
      { m with
        pendingReceipts := m.pendingReceipts.filter (· ≠ receipt)
        credential := some { receipt, secret } }.saveData receipt)
  else none

def clearCredential (m : AppCredentialManager κ) : AppCredentialManager κ :=
  { m with credential := none }.saveData

-- ============================================================================
-- What an operation changes
-- ============================================================================

@[simp] theorem pendingReceipts_saveData (m : AppCredentialManager κ) :
    m.saveData.pendingReceipts = m.pendingReceipts := by
  rw [saveData]
  split <;> rfl

@[simp] theorem credential_saveData (m : AppCredentialManager κ) :
    m.saveData.credential = m.credential := by
  rw [saveData]
  split <;> rfl

@[simp] theorem callbacksByReceipt_saveData (m : AppCredentialManager κ) :
    m.saveData.callbacksByReceipt = m.callbacksByReceipt := by
  rw [saveData]
  split <;> rfl

@[simp] theorem keychainAvailable_saveData (m : AppCredentialManager κ) :
    m.saveData.keychainAvailable = m.keychainAvailable := by
  rw [saveData]
  split <;> rfl

/-- Calling a callback back changes only the callbacks. -/
theorem callBackWithReceipt_snd (m : AppCredentialManager κ) (receipt : String) :
    (m.callBackWithReceipt receipt).2 =
      { m with callbacksByReceipt := m.callbacksByReceipt.erase receipt } := by
  rw [callBackWithReceipt]
  cases h : m.callbacksByReceipt.lookup receipt with
  | some callback => rfl
  | none =>
      have herase : m.callbacksByReceipt.erase receipt = m.callbacksByReceipt := by
        apply Finmap.ext_lookup
        intro key
        by_cases hkey : key = receipt
        · rw [hkey, Finmap.lookup_erase, h]
        · exact Finmap.lookup_erase_ne hkey
      simp only [herase]

/-- A redeemed receipt was pending, is no longer, and becomes the credential's. -/
theorem canFinishVerification_some {m m' : AppCredentialManager κ} {receipt : String}
    {secret : Option JSONObject} {called : Option (κ × AppCredential)}
    (h : m.canFinishVerification receipt secret = some (called, m')) :
    receipt ∈ m.pendingReceipts ∧
      m'.pendingReceipts = m.pendingReceipts.filter (· ≠ receipt) ∧
      m'.credential = some { receipt, secret } := by
  rw [canFinishVerification] at h
  split at h
  · rename_i hmem
    have hm' := congrArg Prod.snd (Option.some.inj h)
    simp only [callBackWithReceipt_snd] at hm'
    subst hm'
    exact ⟨hmem, pendingReceipts_saveData _, credential_saveData _⟩
  · cases h

-- ============================================================================
-- Histories
-- ============================================================================

inductive Event (κ : Type)
  | didStartVerification (receipt : String) (callback : κ)
  | canFinishVerification (receipt : String) (secret : Option JSONObject)
  | clearCredential
  | timeout (receipt : String)
  | keychain (available : Bool)
  | relaunch

def next (m : AppCredentialManager κ) : Event κ → AppCredentialManager κ
  | .didStartVerification receipt callback => m.didStartVerification receipt callback
  | .canFinishVerification receipt secret =>
      ((m.canFinishVerification receipt secret).map Prod.snd).getD m
  | .clearCredential => m.clearCredential
  | .timeout receipt => (m.callBackWithReceipt receipt).2
  | .keychain available => { m with keychainAvailable := available }
  | .relaunch => initWithKeychain m.saved m.keychainAvailable

def step (m : AppCredentialManager κ) (e : Event κ) : Option (AppCredentialManager κ) :=
  some (m.next e)

/-- The receipts of the keychain item. -/
def savedReceipts (m : AppCredentialManager κ) : List String :=
  (m.saved.map SavedAppCredentials.pendingReceipts).getD []

/-- What a step does to the receipts held and to those of the item: they change
    in the same way, unless the keychain refuses (`kept`). -/
inductive ReceiptStep (m : AppCredentialManager κ) :
    Event κ → (held saved : List String) → Prop
  | started {receipt : String} {callback : κ} {saved : List String}
      (hsaved : saved = recorded m.pendingReceipts receipt ∨ saved = m.savedReceipts) :
      ReceiptStep m (.didStartVerification receipt callback) (recorded m.pendingReceipts receipt)
        saved
  | redeemed {receipt : String} {secret : Option JSONObject} {saved : List String}
      (hmem : receipt ∈ m.pendingReceipts)
      (hsaved : m.keychainAvailable = true ∧ saved = m.pendingReceipts.filter (· ≠ receipt) ∨
        m.keychainAvailable = false ∧ saved = m.savedReceipts) :
      ReceiptStep m (.canFinishVerification receipt secret)
        (m.pendingReceipts.filter (· ≠ receipt)) saved
  | refused {receipt : String} {secret : Option JSONObject} (hmem : receipt ∉ m.pendingReceipts) :
      ReceiptStep m (.canFinishVerification receipt secret) m.pendingReceipts m.savedReceipts
  | cleared {saved : List String} (hsaved : saved = m.pendingReceipts ∨ saved = m.savedReceipts) :
      ReceiptStep m .clearCredential m.pendingReceipts saved
  | timeout {receipt : String} :
      ReceiptStep m (.timeout receipt) m.pendingReceipts m.savedReceipts
  | keychain {available : Bool} :
      ReceiptStep m (.keychain available) m.pendingReceipts m.savedReceipts
  | relaunch {held : List String} (hheld : held = m.savedReceipts ∨ held = []) :
      ReceiptStep m .relaunch held m.savedReceipts

theorem savedReceipts_saveData (m : AppCredentialManager κ) :
    m.keychainAvailable = true ∧ m.saveData.savedReceipts = m.pendingReceipts ∨
      m.keychainAvailable = false ∧ m.saveData.savedReceipts = m.savedReceipts := by
  rw [saveData]
  split
  · rename_i havailable
    exact .inl ⟨havailable, rfl⟩
  · rename_i havailable
    exact .inr ⟨Bool.eq_false_iff.mpr havailable, rfl⟩

/-- Every step changes the receipts in one of these ways. -/
theorem receiptStep {m m' : AppCredentialManager κ} {e : Event κ} (h : m.step e = some m') :
    ReceiptStep m e m'.pendingReceipts m'.savedReceipts := by
  obtain rfl := Option.some.inj h
  cases e with
  | didStartVerification receipt callback =>
      rw [next, didStartVerification, pendingReceipts_saveData]
      exact .started ((savedReceipts_saveData _).imp And.right And.right)
  | canFinishVerification receipt secret =>
      rw [next, canFinishVerification]
      by_cases hmem : receipt ∈ m.pendingReceipts
      · simp only [if_pos hmem, Option.map_some, Option.getD_some, callBackWithReceipt_snd,
          pendingReceipts_saveData]
        exact .redeemed hmem (savedReceipts_saveData
          { m with
            pendingReceipts := m.pendingReceipts.filter (· ≠ receipt)
            credential := some { receipt, secret } })
      · simp only [if_neg hmem, Option.map_none, Option.getD_none]
        exact .refused hmem
  | clearCredential =>
      rw [next, clearCredential, pendingReceipts_saveData]
      exact .cleared ((savedReceipts_saveData _).imp And.right And.right)
  | timeout receipt =>
      simp only [next, callBackWithReceipt_snd]
      exact .timeout
  | keychain available => exact .keychain
  | relaunch =>
      refine .relaunch ?_
      cases havailable : m.keychainAvailable with
      | true => exact .inl (by simp [next, initWithKeychain, savedReceipts, havailable])
      | false => exact .inr (by simp [next, initWithKeychain, havailable])

-- ============================================================================
-- Distinct receipts
-- ============================================================================

/-- A list of receipts as the manager keeps it. -/
structure Recorded (receipts : List String) : Prop where
  nodup : receipts.Nodup
  length_le : receipts.length ≤ maximumNumberOfPendingReceipts

theorem Recorded.nil : Recorded [] := ⟨List.nodup_nil, Nat.zero_le _⟩

theorem Recorded.filter {receipts : List String} (h : Recorded receipts) (p : String → Bool) :
    Recorded (receipts.filter p) :=
  ⟨h.nodup.filter p, Nat.le_trans (List.length_filter_le p receipts) h.length_le⟩

theorem mem_recorded {receipts : List String} {receipt r : String}
    (h : r ∈ recorded receipts receipt) : r = receipt ∨ r ∈ receipts := by
  simp only [recorded, List.mem_append, List.mem_singleton] at h
  rcases h with h | rfl
  · refine .inr ?_
    split at h
    · exact (List.mem_filter.mp (List.mem_of_mem_tail h)).1
    · exact (List.mem_filter.mp h).1
  · exact .inl rfl

theorem Recorded.recorded {receipts : List String} (h : Recorded receipts) (receipt : String) :
    Recorded (recorded receipts receipt) := by
  have hrest := h.filter (· ≠ receipt)
  have hfresh : receipt ∉ receipts.filter (· ≠ receipt) := by simp
  rw [AppCredentialManager.recorded]
  generalize receipts.filter (· ≠ receipt) = rest at hrest hfresh
  constructor
  · simp only [List.nodup_append, List.mem_singleton, forall_eq]
    refine ⟨?_, List.nodup_singleton receipt, ?_⟩
    · split
      · exact hrest.nodup.tail
      · exact hrest.nodup
    · intro r hr heq
      subst heq
      split at hr
      · exact hfresh (List.mem_of_mem_tail hr)
      · exact hfresh hr
  · have hlength := hrest.length_le
    have hmax : maximumNumberOfPendingReceipts = 32 := rfl
    split
    · rw [List.length_append, List.length_tail, List.length_singleton]
      omega
    · rw [List.length_append, List.length_singleton]
      omega

structure WellFormed (m : AppCredentialManager κ) : Prop where
  held : Recorded m.pendingReceipts
  saved : Recorded m.savedReceipts

theorem wellFormed_fresh : ({} : AppCredentialManager κ).WellFormed := ⟨.nil, .nil⟩

theorem WellFormed.step {m m' : AppCredentialManager κ} {e : Event κ} (hm : m.WellFormed)
    (h : m.step e = some m') : m'.WellFormed := by
  have hcases := receiptStep h
  generalize hheld : m'.pendingReceipts = held at hcases
  generalize hsaved : m'.savedReceipts = saved at hcases
  suffices hrecorded : Recorded held ∧ Recorded saved by
    exact ⟨hheld ▸ hrecorded.1, hsaved ▸ hrecorded.2⟩
  cases hcases with
  | started hsaved =>
      refine ⟨hm.held.recorded _, ?_⟩
      rcases hsaved with rfl | rfl
      · exact hm.held.recorded _
      · exact hm.saved
  | redeemed hmem hsaved =>
      refine ⟨hm.held.filter _, ?_⟩
      rcases hsaved with ⟨-, rfl⟩ | ⟨-, rfl⟩
      · exact hm.held.filter _
      · exact hm.saved
  | cleared hsaved =>
      refine ⟨hm.held, ?_⟩
      rcases hsaved with rfl | rfl
      · exact hm.held
      · exact hm.saved
  | relaunch hheld =>
      refine ⟨?_, hm.saved⟩
      rcases hheld with rfl | rfl
      · exact hm.saved
      · exact .nil
  | _ => exact ⟨hm.held, hm.saved⟩

/-- **At most 32 distinct receipts.**  In memory and in the keychain item, after
    any history of a fresh install. -/
theorem run_wellFormed (es : List (Event κ)) (m : AppCredentialManager κ)
    (h : run step {} es = some m) : m.WellFormed :=
  run_invariant_all (fun _ _ _ hm h => WellFormed.step hm h) wellFormed_fresh h

-- ============================================================================
-- Redemptions
-- ============================================================================

/-- The verifications an event starts with a receipt. -/
def started (receipt : String) : AppCredentialManager κ → Event κ → Nat
  | _, .didStartVerification r _ => if r = receipt then 1 else 0
  | _, _ => 0

/-- The redemptions of a receipt by an event. -/
def redeemed (receipt : String) : AppCredentialManager κ → Event κ → Nat
  | m, .canFinishVerification r _ => if r = receipt ∧ r ∈ m.pendingReceipts then 1 else 0
  | _, _ => 0

/-- The keychain does not miss a redemption. -/
def Recording (m : AppCredentialManager κ) : Event κ → Prop
  | .canFinishVerification receipt _ => receipt ∈ m.pendingReceipts → m.keychainAvailable = true
  | _ => True

/-- A receipt that this launch or the next one can still redeem. -/
def redeemable (receipt : String) (m : AppCredentialManager κ) : Nat :=
  if receipt ∈ m.pendingReceipts ∨ receipt ∈ m.savedReceipts then 1 else 0

theorem redeemable_le_one (receipt : String) (m : AppCredentialManager κ) :
    redeemable receipt m ≤ 1 := by
  rw [redeemable]
  split <;> omega

theorem redeemable_mono {r : String} {m m' : AppCredentialManager κ}
    (h : r ∈ m'.pendingReceipts ∨ r ∈ m'.savedReceipts →
      r ∈ m.pendingReceipts ∨ r ∈ m.savedReceipts) :
    redeemable r m' ≤ redeemable r m := by
  rw [redeemable, redeemable]
  split
  · rename_i h'
    rw [if_pos (h h')]
  · exact Nat.zero_le _

/-- What can be redeemed is started first and redeemed once. -/
theorem redeemable_step {receipt : String} {m m' : AppCredentialManager κ} {e : Event κ}
    (hrecording : m.Recording e) (h : m.step e = some m') :
    redeemed receipt m e + redeemable receipt m' ≤ redeemable receipt m + started receipt m e := by
  have hcases := receiptStep h
  have hone := redeemable_le_one receipt m'
  have hmono := @redeemable_mono κ receipt m m'
  generalize hheld' : m'.pendingReceipts = held at hcases hmono
  generalize hsaved' : m'.savedReceipts = saved at hcases hmono
  cases hcases with
  | @started r callback saved hsaved =>
      simp only [started, redeemed]
      by_cases hr : r = receipt
      · rw [if_pos hr]
        omega
      · have hback : receipt ∈ recorded m.pendingReceipts r → receipt ∈ m.pendingReceipts :=
          fun hmem => (mem_recorded hmem).resolve_left (Ne.symm hr)
        have hle := hmono (by
          rintro (hmem | hmem)
          · exact .inl (hback hmem)
          · rcases hsaved with rfl | rfl
            · exact .inl (hback hmem)
            · exact .inr hmem)
        omega
  | @redeemed r secret saved hmem hsaved =>
      have havailable : m.keychainAvailable = true := hrecording hmem
      obtain ⟨-, rfl⟩ := hsaved.resolve_right (by simp [havailable])
      simp only [started, redeemed]
      by_cases hr : r = receipt
      · -- the receipt is in neither list any more
        subst hr
        rw [if_pos ⟨rfl, hmem⟩, redeemable, redeemable, hheld', hsaved', if_neg (by simp),
          if_pos (.inl hmem)]
      · rw [if_neg fun hr' => hr hr'.1]
        have hle := hmono fun h => .inl (List.mem_filter.mp (h.elim id id)).1
        omega
  | @refused r secret hmem =>
      simp only [started, redeemed, if_neg fun hr : r = receipt ∧ r ∈ m.pendingReceipts => hmem hr.2]
      have hle := hmono id
      omega
  | cleared hsaved =>
      simp only [started, redeemed]
      have hle := hmono (by
        rintro (h | h)
        · exact .inl h
        · rcases hsaved with rfl | rfl
          · exact .inl h
          · exact .inr h)
      omega
  | timeout =>
      simp only [started, redeemed]
      have hle := hmono id
      omega
  | keychain =>
      simp only [started, redeemed]
      have hle := hmono id
      omega
  | relaunch hheld =>
      simp only [started, redeemed]
      have hle := hmono (by
        rintro (h | h)
        · rcases hheld with rfl | rfl
          · exact .inr h
          · cases h
        · exact .inr h)
      omega

/-- **A receipt is redeemed no more often than it was issued.**  In every
    history of a fresh install in which the keychain misses no redemption, a
    notification delivered again finds its receipt redeemed and is refused,
    in the same launch and in later ones. -/
theorem run_redeemed_le (receipt : String) (es : List (Event κ)) (m : AppCredentialManager κ)
    (hrecording : Along step Recording {} es) (h : run step {} es = some m) :
    tally step (redeemed receipt) {} es ≤ tally step (started receipt) {} es := by
  have hfresh : redeemable receipt ({} : AppCredentialManager κ) = 0 := by
    simp [redeemable, savedReceipts]
  have haccount : tally step (redeemed receipt) {} es + redeemable receipt m ≤
      redeemable receipt {} + tally step (started receipt) {} es :=
    run_account_le (fun _ _ _ hok h => redeemable_step hok h) es {} m hrecording h
  omega

-- ============================================================================
-- From launch to launch
-- ============================================================================

/-- The keychain item holds what the manager holds. -/
structure Saved (m : AppCredentialManager κ) : Prop where
  credential : m.saved.bind SavedAppCredentials.fullCredential = m.credential
  receipts : m.savedReceipts = m.pendingReceipts

theorem Saved.saveData {m : AppCredentialManager κ} (h : m.keychainAvailable = true) :
    m.saveData.Saved := by
  rw [AppCredentialManager.saveData, if_pos h]
  exact ⟨rfl, rfl⟩

theorem Saved.step {m m' : AppCredentialManager κ} {e : Event κ} (hm : m.Saved)
    (havailable : m.keychainAvailable = true) (h : m.step e = some m') : m'.Saved := by
  obtain rfl := Option.some.inj h
  cases e with
  | didStartVerification receipt callback => exact .saveData havailable
  | canFinishVerification receipt secret =>
      rw [next, canFinishVerification]
      by_cases hmem : receipt ∈ m.pendingReceipts
      · simp only [if_pos hmem, Option.map_some, Option.getD_some, callBackWithReceipt_snd]
        have hsaved := Saved.saveData (m :=
          { m with
            pendingReceipts := m.pendingReceipts.filter (· ≠ receipt)
            credential := some { receipt, secret } }) havailable
        exact ⟨hsaved.credential, hsaved.receipts⟩
      · simpa only [if_neg hmem, Option.map_none, Option.getD_none] using hm
  | clearCredential => exact .saveData havailable
  | timeout receipt =>
      simp only [next, callBackWithReceipt_snd]
      exact ⟨hm.credential, hm.receipts⟩
  | keychain available => exact ⟨hm.credential, hm.receipts⟩
  | relaunch =>
      rw [next, initWithKeychain, havailable]
      exact ⟨rfl, rfl⟩

/-- **A launch goes on where the last one ended.**  In every history of a fresh
    install through which the keychain answers, the next launch loads the
    credential and the receipts that the manager holds. -/
theorem run_saved (es : List (Event κ)) (m m' : AppCredentialManager κ)
    (havailable : Along step (fun m _ => m.keychainAvailable = true) {} (es ++ [.relaunch]))
    (h : run step {} es = some m) (h' : m.step .relaunch = some m') :
    m'.credential = m.credential ∧ m'.pendingReceipts = m.pendingReceipts := by
  have hm : m.Saved :=
    run_invariant (fun _ _ _ hm hok h => hm.step hok h) es {} m ⟨rfl, rfl⟩ havailable.of_append h
  have hlast : m.keychainAvailable = true := (along_append havailable h).head
  obtain rfl := Option.some.inj h'
  rw [next, initWithKeychain, hlast]
  exact ⟨hm.credential, hm.receipts⟩

/-- Two verifications are started; the secret of the first has come. -/
theorem run_saved_twoReceipts :
    ∃ m m', run step {} [.didStartVerification "first" 1, .didStartVerification "second" 2,
        .canFinishVerification "first" (some (.string "secret"))] = some m ∧
      m.step .relaunch = some m' ∧ m'.credential = m.credential ∧
      m'.pendingReceipts = m.pendingReceipts := by
  have hrun : run step ({} : AppCredentialManager Nat)
      [.didStartVerification "first" 1, .didStartVerification "second" 2,
        .canFinishVerification "first" (some (.string "secret"))] = some _ := rfl
  exact ⟨_, _, hrun, rfl, run_saved _ _ _ (by decide) hrun rfl⟩

end AppCredentialManager

end Spark.Firebase
