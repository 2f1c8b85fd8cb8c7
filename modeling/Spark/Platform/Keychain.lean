/-
  Spark.Platform.Keychain

  The keychain: generic password items with an account and, mostly, a service,
  and the four calls of the Security framework on them.

  A query names an account and may name a service; one that does not name a
  service matches the items of every service.  A call fails with a status of its
  own (`SecFault`), as when the device has not been unlocked yet, and then does
  nothing.
-/

import Mathlib.Data.List.Basic

namespace Spark

variable {δ : Type}

structure KeychainItem (δ : Type) where
  account : String
  service : Option String
  data : δ

structure KeychainQuery where
  account : String
  service : Option String := none
  deriving DecidableEq, Repr

def KeychainQuery.Matches (q : KeychainQuery) (item : KeychainItem δ) : Prop :=
  item.account = q.account ∧ (q.service = none ∨ item.service = q.service)

instance (q : KeychainQuery) : DecidablePred (q.Matches : KeychainItem δ → Prop) :=
  fun _ => inferInstanceAs (Decidable (_ ∧ _))

/-- The items, in the order they are returned in. -/
abbrev Keychain (δ : Type) := List (KeychainItem δ)

abbrev OSStatus := Int

def noErr : OSStatus := 0
def errSecDuplicateItem : OSStatus := -25299
def errSecItemNotFound : OSStatus := -25300

/-- A status with which a call fails, whatever the items. -/
structure SecFault where
  status : OSStatus
  ne_noErr : status ≠ noErr
  ne_duplicateItem : status ≠ errSecDuplicateItem
  ne_itemNotFound : status ≠ errSecItemNotFound

/-- `errSecInteractionNotAllowed`: the device is locked. -/
def SecFault.interactionNotAllowed : SecFault := ⟨-25308, by decide, by decide, by decide⟩

namespace Keychain

def matching (k : Keychain δ) (q : KeychainQuery) : List (KeychainItem δ) :=
  k.filter fun item => q.Matches item

/-- `SecItemCopyMatching` with the match limit. -/
def secItemCopyMatching (k : Keychain δ) (q : KeychainQuery) (limit : Nat) :
    Option SecFault → OSStatus × List (KeychainItem δ)
  | some fault => (fault.status, [])
  | none =>
      if k.matching q = [] then (errSecItemNotFound, []) else (noErr, (k.matching q).take limit)

/-- `SecItemAdd`: one item for each account and service. -/
def secItemAdd (k : Keychain δ) (item : KeychainItem δ) : Option SecFault → OSStatus × Keychain δ
  | some fault => (fault.status, k)
  | none =>
      if ∃ i ∈ k, i.account = item.account ∧ i.service = item.service then (errSecDuplicateItem, k)
      else (noErr, k ++ [item])

/-- `SecItemUpdate` of the data. -/
def secItemUpdate (k : Keychain δ) (q : KeychainQuery) (data : δ) :
    Option SecFault → OSStatus × Keychain δ
  | some fault => (fault.status, k)
  | none =>
      if k.matching q = [] then (errSecItemNotFound, k)
      else (noErr, k.map fun item => if q.Matches item then { item with data } else item)

def secItemDelete (k : Keychain δ) (q : KeychainQuery) : Option SecFault → OSStatus × Keychain δ
  | some fault => (fault.status, k)
  | none =>
      if k.matching q = [] then (errSecItemNotFound, k)
      else (noErr, k.filter fun item => ¬q.Matches item)

-- ============================================================================
-- What a call changes
-- ============================================================================

@[simp] theorem matching_append (k : Keychain δ) (item : KeychainItem δ) (q : KeychainQuery) :
    matching (k ++ [item]) q = k.matching q ++ if q.Matches item then [item] else [] := by
  rw [matching, matching, List.filter_append, List.filter_singleton]
  simp

/-- New data is found where the old data was. -/
theorem matching_map (k : Keychain δ) (q q' : KeychainQuery) (data : δ) :
    matching (k.map fun item => if q'.Matches item then { item with data } else item) q =
      (k.matching q).map fun item => if q'.Matches item then { item with data } else item := by
  rw [matching, matching, List.filter_map]
  congr 1
  apply List.filter_congr
  intro item _
  by_cases h : q'.Matches item
  · simp only [Function.comp, if_pos h]
    rfl
  · simp only [Function.comp, if_neg h]

theorem matching_filter (k : Keychain δ) (q q' : KeychainQuery) :
    matching (k.filter fun item => ¬q'.Matches item) q =
      (k.matching q).filter fun item => ¬q'.Matches item := by
  rw [matching, matching, List.filter_comm]

/-- A query matches no item that one for another account matches. -/
theorem not_matches_of_mem {k : Keychain δ} {q q' : KeychainQuery} (h : q.account ≠ q'.account)
    {item : KeychainItem δ} (hitem : item ∈ k.matching q) : ¬q'.Matches item := by
  intro hmatches
  have hq : q.Matches item := by simpa [matching] using (List.mem_filter.mp hitem).2
  exact h (hq.1.symm.trans hmatches.1)

/-- A call changes nothing for the queries for other accounts. -/
theorem matching_secItemAdd_of_ne {k : Keychain δ} {item : KeychainItem δ} {q : KeychainQuery}
    (h : q.account ≠ item.account) (fault : Option SecFault) :
    matching (k.secItemAdd item fault).2 q = k.matching q := by
  cases fault with
  | some fault => rfl
  | none =>
      rw [secItemAdd]
      split
      · rfl
      · rw [matching_append, if_neg (fun hmatches => h hmatches.1.symm), List.append_nil]

theorem matching_secItemUpdate_of_ne {k : Keychain δ} {q q' : KeychainQuery} {data : δ}
    (h : q.account ≠ q'.account) (fault : Option SecFault) :
    matching (k.secItemUpdate q' data fault).2 q = k.matching q := by
  cases fault with
  | some fault => rfl
  | none =>
      rw [secItemUpdate]
      split
      · rfl
      · rw [matching_map]
        refine (List.map_congr_left fun item hitem => ?_).trans (List.map_id _)
        exact if_neg (not_matches_of_mem h hitem)

theorem matching_secItemDelete_of_ne {k : Keychain δ} {q q' : KeychainQuery}
    (h : q.account ≠ q'.account) (fault : Option SecFault) :
    matching (k.secItemDelete q' fault).2 q = k.matching q := by
  cases fault with
  | some fault => rfl
  | none =>
      rw [secItemDelete]
      split
      · rfl
      · rw [matching_filter, List.filter_eq_self]
        intro item hitem
        simpa using not_matches_of_mem h hitem

/-- A deletion that does not fail leaves nothing to find. -/
theorem matching_secItemDelete (k : Keychain δ) (q : KeychainQuery) :
    matching (k.secItemDelete q none).2 q = [] := by
  rw [secItemDelete]
  split
  · assumption
  · rw [matching_filter, List.filter_eq_nil_iff]
    intro item hitem
    have hmatches : q.Matches item := by simpa [matching] using (List.mem_filter.mp hitem).2
    simpa using hmatches

end Keychain

end Spark
