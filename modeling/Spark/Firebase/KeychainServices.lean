/-
  Spark.Firebase.KeychainServices

  `FIRAuthKeychainServices`: a keyed store on top of the keychain.

  The item of a key has the account `firebase_auth_1_` and the key; an earlier
  version of the class used the key alone and no service.  A legacy item is moved
  to the present form when its key is read, and deleted when its key is removed;
  that it is gone is remembered, whether or not the keychain has deleted it.

  To its callers the store is a map, whatever calls of the keychain fail: an
  operation that reports an error has changed nothing, and one that succeeds has
  done what it says, from launch to launch (`run_operations`).  It relies on two
  things: no key is the account of another one's item, and no legacy item is
  left where its deletion failed.  One that is left brings removed data back
  (`dataForKey_removed`).
-/

import Mathlib.Data.Finset.Insert
import Mathlib.Data.Set.Basic
import Spark.Lib.Emission
import Spark.Platform.Keychain

namespace Spark.Firebase

open Spark.Lib

variable {δ : Type}

-- ============================================================================
-- The data of a query
-- ============================================================================

/-- `keychainErrorWithFunction:status:`. -/
structure KeychainError where
  function : String
  status : OSStatus
  deriving DecidableEq, Repr

/-- What the calls of an operation fail with. -/
structure KeychainFaults where
  copyMatching : Option SecFault := none
  copyMatchingLegacy : Option SecFault := none
  add : Option SecFault := none
  update : Option SecFault := none
  delete : Option SecFault := none
  deleteLegacy : Option SecFault := none

/-- No call that writes fails. -/
structure KeychainFaults.Writable (faults : KeychainFaults) : Prop where
  add : faults.add = none
  update : faults.update = none
  delete : faults.delete = none

/-- The data of the first item that is not a legacy item, else of the first. -/
def firstData (items : List (KeychainItem δ)) : Option δ :=
  ((items.find? fun item => item.service.isSome).or items.head?).map KeychainItem.data

def itemWithQuery (k : Keychain δ) (q : KeychainQuery) (fault : Option SecFault) :
    Except KeychainError (Option δ) :=
  let r := k.secItemCopyMatching q 2 fault
  if r.1 = noErr then
    match firstData r.2 with
    | some data => .ok (some data)
    | none => .error ⟨"SecItemCopyMatching", r.1⟩
  else if r.1 = errSecItemNotFound then .ok none
  else .error ⟨"SecItemCopyMatching", r.1⟩

/-- `setItemWithQuery:attributes:error:`; the query names the account and the
    service, which are the item's. -/
def setItemWithQuery (k : Keychain δ) (account service : String) (data : δ)
    (faults : KeychainFaults) : Except KeychainError Unit × Keychain δ :=
  let added := k.secItemAdd { account, service := some service, data } faults.add
  if added.1 = errSecDuplicateItem then
    let updated := added.2.secItemUpdate { account, service := some service } data faults.update
    (if updated.1 = noErr then .ok () else .error ⟨"SecItemUpdate", updated.1⟩, updated.2)
  else (if added.1 = noErr then .ok () else .error ⟨"SecItemAdd", added.1⟩, added.2)

def deleteItemWithQuery (k : Keychain δ) (q : KeychainQuery) (faults : KeychainFaults) :
    Except KeychainError Unit × Keychain δ :=
  let deleted := k.secItemDelete q faults.delete
  (if deleted.1 = noErr ∨ deleted.1 = errSecItemNotFound then .ok ()
    else .error ⟨"SecItemDelete", deleted.1⟩, deleted.2)

-- ============================================================================
-- The services
-- ============================================================================

def kAccountPrefix : String := "firebase_auth_1_"

/-- The keys are not empty; `dataForKey:`, `setData:` and `removeDataForKey:`
    raise on one that is. -/
structure KeychainServices (δ : Type) where
  service : String
  legacyEntryDeletedForKey : Finset String := ∅
  keychain : Keychain δ := []

namespace KeychainServices

def genericPasswordQuery (s : KeychainServices δ) (key : String) : KeychainQuery :=
  { account := kAccountPrefix ++ key, service := some s.service }

def legacyGenericPasswordQuery (key : String) : KeychainQuery :=
  { account := key }

def deleteLegacyItem (s : KeychainServices δ) (key : String) (faults : KeychainFaults) :
    KeychainServices δ :=
  if key ∈ s.legacyEntryDeletedForKey then s
  else
    { s with
      keychain := (s.keychain.secItemDelete (legacyGenericPasswordQuery key) faults.deleteLegacy).2
      legacyEntryDeletedForKey := insert key s.legacyEntryDeletedForKey }

def setData (s : KeychainServices δ) (data : δ) (key : String) (faults : KeychainFaults) :
    Except KeychainError Unit × KeychainServices δ :=
  let r := setItemWithQuery s.keychain (kAccountPrefix ++ key) s.service data faults
  (r.1, { s with keychain := r.2 })

def dataForKey (s : KeychainServices δ) (key : String) (faults : KeychainFaults) :
    Except KeychainError (Option δ) × KeychainServices δ :=
  match itemWithQuery s.keychain (s.genericPasswordQuery key) faults.copyMatching with
  | .error error => (.error error, s)
  | .ok (some data) => (.ok (some data), s)
  | .ok none =>
      if key ∈ s.legacyEntryDeletedForKey then (.ok none, s)
      else
        match itemWithQuery s.keychain (legacyGenericPasswordQuery key)
          faults.copyMatchingLegacy with
        | .error error => (.error error, s)
        | .ok none =>
            (.ok none, { s with legacyEntryDeletedForKey := insert key s.legacyEntryDeletedForKey })
        | .ok (some data) =>
            -- move the data to the present form
            match s.setData data key faults with
            | (.error error, s) => (.error error, s)
            | (.ok (), s) => (.ok (some data), s.deleteLegacyItem key faults)

def removeData (s : KeychainServices δ) (key : String) (faults : KeychainFaults) :
    Except KeychainError Unit × KeychainServices δ :=
  match deleteItemWithQuery s.keychain (s.genericPasswordQuery key) faults with
  | (.error error, keychain) => (.error error, { s with keychain })
  | (.ok (), keychain) => (.ok (), { s with keychain }.deleteLegacyItem key faults)

/-- `initWithService:` on the same keychain. -/
def reopened (s : KeychainServices δ) : KeychainServices δ :=
  { service := s.service, keychain := s.keychain }

end KeychainServices

-- ============================================================================
-- The data that a query finds
-- ============================================================================

def dataOf (k : Keychain δ) (q : KeychainQuery) : Option δ :=
  firstData ((k.matching q).take 2)

theorem firstData_eq_none {items : List (KeychainItem δ)} :
    firstData items = none ↔ items = [] := by
  cases items with
  | nil => exact ⟨fun _ => rfl, fun _ => rfl⟩
  | cons item items => simp [firstData]

/-- Items that all hold the same data. -/
theorem firstData_of_forall {items : List (KeychainItem δ)} {data : δ} (hne : items ≠ [])
    (h : ∀ item ∈ items, item.data = data) : firstData items = some data := by
  obtain ⟨found, hfound⟩ :=
    Option.ne_none_iff_exists'.mp fun hnone => hne (firstData_eq_none.mp hnone)
  obtain ⟨item, hitem, rfl⟩ := Option.map_eq_some_iff.mp hfound
  have hmem : item ∈ items := by
    rcases Option.or_eq_some_iff.mp hitem with hfind | ⟨-, hhead⟩
    · exact List.mem_of_find?_eq_some hfind
    · exact List.mem_of_head? hhead
  rw [hfound, h item hmem]

theorem dataOf_eq_none {k : Keychain δ} {q : KeychainQuery} :
    dataOf k q = none ↔ k.matching q = [] := by
  rw [dataOf, firstData_eq_none]
  cases k.matching q <;> simp

theorem dataOf_congr {k k' : Keychain δ} {q : KeychainQuery}
    (h : k'.matching q = k.matching q) : dataOf k' q = dataOf k q := by
  rw [dataOf, dataOf, h]

theorem itemWithQuery_none (k : Keychain δ) (q : KeychainQuery) :
    itemWithQuery k q none = .ok (dataOf k q) := by
  by_cases hnone : k.matching q = []
  · rw [dataOf_eq_none.mpr hnone]
    simp [itemWithQuery, Keychain.secItemCopyMatching, hnone, noErr, errSecItemNotFound]
  · obtain ⟨data, hdata⟩ := Option.ne_none_iff_exists'.mp fun h => hnone (dataOf_eq_none.mp h)
    rw [hdata]
    rw [dataOf] at hdata
    simp [itemWithQuery, Keychain.secItemCopyMatching, hnone, hdata]

/-- A query that is answered is answered with the data it finds. -/
theorem itemWithQuery_ok {k : Keychain δ} {q : KeychainQuery} {fault : Option SecFault}
    {found : Option δ} (h : itemWithQuery k q fault = .ok found) : found = dataOf k q := by
  cases fault with
  | none => exact (Except.ok.inj ((itemWithQuery_none k q).symm.trans h)).symm
  | some fault =>
      simp [itemWithQuery, Keychain.secItemCopyMatching, fault.ne_noErr, fault.ne_itemNotFound] at h

theorem secItemUpdate_found {k : Keychain δ} {q : KeychainQuery} (h : k.matching q ≠ [])
    (data : δ) :
    (k.secItemUpdate q data none).1 = noErr ∧
      dataOf (k.secItemUpdate q data none).2 q = some data := by
  rw [Keychain.secItemUpdate, if_neg h]
  refine ⟨rfl, ?_⟩
  rw [dataOf, Keychain.matching_map]
  apply firstData_of_forall
  · intro hnil
    exact h (by simpa using hnil)
  · intro item hitem
    obtain ⟨old, hold, rfl⟩ := List.mem_map.mp (List.mem_of_mem_take hitem)
    have hmatches : q.Matches old := by simpa [Keychain.matching] using (List.mem_filter.mp hold).2
    rw [if_pos hmatches]

theorem dataOf_append {k : Keychain δ} {item : KeychainItem δ} {q : KeychainQuery}
    (hnone : k.matching q = []) (hmatches : q.Matches item) :
    dataOf (k ++ [item]) q = some item.data := by
  have hmatching : Keychain.matching (k ++ [item]) q = [item] := by
    rw [Keychain.matching_append, hnone, if_pos hmatches, List.nil_append]
  rw [dataOf, hmatching]
  exact firstData_of_forall (List.cons_ne_nil _ _) (by simp)

/-- Data that has been set is found; where it could not be set nothing has changed. -/
theorem setItemWithQuery_cases (k : Keychain δ) (account service : String) (data : δ)
    (faults : KeychainFaults) :
    ((setItemWithQuery k account service data faults).1 = .ok () ∧
        dataOf (setItemWithQuery k account service data faults).2 ⟨account, some service⟩ =
          some data) ∨
      (∃ error, (setItemWithQuery k account service data faults).1 = .error error) ∧
        (setItemWithQuery k account service data faults).2 = k ∧ ¬faults.Writable := by
  have hstatus : noErr ≠ errSecDuplicateItem := by decide
  unfold setItemWithQuery
  cases hadd : faults.add with
  | some fault =>
      simp only [Keychain.secItemAdd, fault.ne_duplicateItem, fault.ne_noErr, if_false]
      exact .inr ⟨⟨_, rfl⟩, trivial, fun h => Option.some_ne_none fault (hadd ▸ h.add)⟩
  | none =>
      rw [Keychain.secItemAdd]
      by_cases hdup : ∃ i ∈ k, i.account = account ∧ i.service = some service
      · simp only [if_pos hdup, if_true]
        cases hupdate : faults.update with
        | some fault =>
            simp only [Keychain.secItemUpdate, fault.ne_noErr, if_false]
            exact .inr ⟨⟨_, rfl⟩, trivial, fun h => Option.some_ne_none fault (hupdate ▸ h.update)⟩
        | none =>
            obtain ⟨item, hitem, haccount, hservice⟩ := hdup
            have hfound : k.matching ⟨account, some service⟩ ≠ [] := by
              refine List.ne_nil_of_mem (a := item) (List.mem_filter.mpr ⟨hitem, ?_⟩)
              exact decide_eq_true ⟨haccount, .inr hservice⟩
            obtain ⟨hok, hdata⟩ := secItemUpdate_found hfound data
            rw [if_pos hok]
            exact .inl ⟨rfl, hdata⟩
      · simp only [if_neg hdup, if_neg hstatus, if_true]
        refine .inl ⟨trivial, dataOf_append ?_ ⟨rfl, .inr rfl⟩⟩
        rw [Keychain.matching, List.filter_eq_nil_iff]
        intro item hitem hmatches
        obtain ⟨haccount, hservice⟩ := of_decide_eq_true hmatches
        exact hdup ⟨item, hitem, haccount, hservice.resolve_left (by simp)⟩

/-- Other accounts are left alone. -/
theorem matching_setItemWithQuery {k : Keychain δ} {account service : String} {data : δ}
    {q : KeychainQuery} (h : q.account ≠ account) (faults : KeychainFaults) :
    (setItemWithQuery k account service data faults).2.matching q = k.matching q := by
  rw [setItemWithQuery]
  split
  · exact (Keychain.matching_secItemUpdate_of_ne h _).trans (Keychain.matching_secItemAdd_of_ne h _)
  · exact Keychain.matching_secItemAdd_of_ne h _

/-- A deleted item is not found; where it could not be deleted nothing has changed. -/
theorem deleteItemWithQuery_cases (k : Keychain δ) (q : KeychainQuery) (faults : KeychainFaults) :
    ((deleteItemWithQuery k q faults).1 = .ok () ∧
        dataOf (deleteItemWithQuery k q faults).2 q = none) ∨
      (∃ error, (deleteItemWithQuery k q faults).1 = .error error) ∧
        (deleteItemWithQuery k q faults).2 = k ∧ ¬faults.Writable := by
  unfold deleteItemWithQuery
  cases hdelete : faults.delete with
  | some fault =>
      simp only [Keychain.secItemDelete, fault.ne_noErr, fault.ne_itemNotFound, or_self, if_false]
      exact .inr ⟨⟨_, rfl⟩, trivial, fun h => Option.some_ne_none fault (hdelete ▸ h.delete)⟩
  | none =>
      refine .inl ⟨if_pos ?_, dataOf_eq_none.mpr (Keychain.matching_secItemDelete k q)⟩
      rw [Keychain.secItemDelete]
      split
      · exact .inr rfl
      · exact .inl rfl

-- ============================================================================
-- The store as a map
-- ============================================================================

namespace KeychainServices

def legacyData (s : KeychainServices δ) (key : String) : Option δ :=
  dataOf s.keychain (legacyGenericPasswordQuery key)

/-- What the store holds under a key. -/
def data (s : KeychainServices δ) (key : String) : Option δ :=
  (dataOf s.keychain (s.genericPasswordQuery key)).or
    (if key ∈ s.legacyEntryDeletedForKey then none else s.legacyData key)

/-- From `s` to `t` the items of one key only have changed. -/
structure Local (key : String) (s t : KeychainServices δ) : Prop where
  service : t.service = s.service
  matching : ∀ q : KeychainQuery, q.account ≠ kAccountPrefix ++ key → q.account ≠ key →
    t.keychain.matching q = s.keychain.matching q
  deleted : ∀ key', key' ≠ key →
    (key' ∈ t.legacyEntryDeletedForKey ↔ key' ∈ s.legacyEntryDeletedForKey)

theorem Local.refl (key : String) (s : KeychainServices δ) : Local key s s :=
  ⟨rfl, fun _ _ _ => rfl, fun _ _ => Iff.rfl⟩

theorem Local.trans {key : String} {s t u : KeychainServices δ} (h : Local key s t)
    (h' : Local key t u) : Local key s u :=
  ⟨h'.service.trans h.service, fun q h₁ h₂ => (h'.matching q h₁ h₂).trans (h.matching q h₁ h₂),
    fun key' hne => (h'.deleted key' hne).trans (h.deleted key' hne)⟩

theorem account_ne (key : String) : kAccountPrefix ++ key ≠ key := by
  intro h
  have hlength := congrArg String.length h
  rw [String.length_append] at hlength
  have hprefix : kAccountPrefix.length = 16 := by decide
  omega

-- ============================================================================
-- Operations
-- ============================================================================

variable {s : KeychainServices δ} {key : String} {faults : KeychainFaults}

/-- The deletion of a legacy item reaches it. -/
def DeletesLegacy (s : KeychainServices δ) (key : String) (faults : KeychainFaults) : Prop :=
  faults.deleteLegacy = none ∨ s.legacyData key = none

/-- A legacy item that is taken to be deleted is. -/
def Settled (s : KeychainServices δ) (key : String) : Prop :=
  key ∈ s.legacyEntryDeletedForKey → s.legacyData key = none

/-- Whatever becomes of the legacy item, the key holds what its other item does. -/
theorem deleteLegacyItem_spec (s : KeychainServices δ) (key : String) (faults : KeychainFaults) :
    (s.deleteLegacyItem key faults).data key = dataOf s.keychain (s.genericPasswordQuery key) ∧
      (s.DeletesLegacy key faults → s.Settled key →
        (s.deleteLegacyItem key faults).Settled key) := by
  rw [deleteLegacyItem]
  split
  · rename_i hdeleted
    refine ⟨?_, fun _ hsettled => hsettled⟩
    rw [data, if_pos hdeleted, Option.or_none]
  · have hcurrent : dataOf
        (s.keychain.secItemDelete (legacyGenericPasswordQuery key) faults.deleteLegacy).2
        (s.genericPasswordQuery key) = dataOf s.keychain (s.genericPasswordQuery key) :=
      dataOf_congr (Keychain.matching_secItemDelete_of_ne (account_ne key) _)
    refine ⟨?_, ?_⟩
    · rw [data, if_pos (Finset.mem_insert_self _ _), Option.or_none]
      exact hcurrent
    · rintro hdeletes - -
      rw [legacyData, dataOf_eq_none]
      rcases hdeletes with hnone | habsent
      · rw [hnone]
        exact Keychain.matching_secItemDelete _ _
      · have hmatching : s.keychain.matching (legacyGenericPasswordQuery key) = [] :=
          dataOf_eq_none.mp habsent
        cases faults.deleteLegacy with
        | some fault => exact hmatching
        | none => exact Keychain.matching_secItemDelete _ _

/-- Reopening the store forgets which legacy items are gone; those are. -/
theorem data_reopened (h : s.Settled key) : s.reopened.data key = s.data key := by
  have hlegacy : s.reopened.legacyData key = s.legacyData key := rfl
  have hfresh : key ∉ s.reopened.legacyEntryDeletedForKey := Finset.notMem_empty _
  rw [data, data, if_neg hfresh, hlegacy]
  by_cases hdeleted : key ∈ s.legacyEntryDeletedForKey
  · rw [if_pos hdeleted, h hdeleted]
    rfl
  · rw [if_neg hdeleted]
    rfl

theorem setData_cases (s : KeychainServices δ) (d : δ) (key : String) (faults : KeychainFaults) :
    ((s.setData d key faults).1 = .ok () ∧
        dataOf (s.setData d key faults).2.keychain (s.genericPasswordQuery key) = some d ∧
        (s.setData d key faults).2.legacyData key = s.legacyData key) ∨
      (∃ error, (s.setData d key faults).1 = .error error) ∧ (s.setData d key faults).2 = s ∧
        ¬faults.Writable := by
  rcases setItemWithQuery_cases s.keychain (kAccountPrefix ++ key) s.service d faults with
    ⟨hok, hdata⟩ | ⟨herror, hsame, hfault⟩
  · exact .inl ⟨hok, hdata, dataOf_congr (matching_setItemWithQuery (account_ne key).symm faults)⟩
  · refine .inr ⟨herror, ?_, hfault⟩
    rw [setData, hsame]

/-- Setting data holds it under the key, or changes nothing. -/
theorem setData_spec (s : KeychainServices δ) (d : δ) (key : String) (faults : KeychainFaults) :
    ((s.setData d key faults).1 = .ok () ∧ (s.setData d key faults).2.data key = some d) ∨
      (∃ error, (s.setData d key faults).1 = .error error) ∧ (s.setData d key faults).2 = s ∧
        ¬faults.Writable := by
  rcases setData_cases s d key faults with ⟨hok, hdata, -⟩ | hsame
  · refine .inl ⟨hok, ?_⟩
    rw [data]
    exact (congrArg (Option.or · _) hdata).trans (Option.some_or ..)
  · exact .inr hsame

theorem Settled.setData (h : s.Settled key) (d : δ) : (s.setData d key faults).2.Settled key := by
  rcases setData_cases s d key faults with ⟨-, -, hlegacy⟩ | ⟨-, hsame, -⟩
  · intro hdeleted
    rw [hlegacy]
    exact h hdeleted
  · rw [hsame]
    exact h

/-- What reading a key does to the store: it stays as it is, or a legacy item is
    found missing, or moved. -/
inductive Reads (s : KeychainServices δ) (key : String) (faults : KeychainFaults) :
    Except KeychainError (Option δ) → KeychainServices δ → Prop
  | failed {error : KeychainError} : Reads s key faults (.error error) s
  | found {d : δ} (hcurrent : dataOf s.keychain (s.genericPasswordQuery key) = some d) :
      Reads s key faults (.ok (some d)) s
  | deleted (hcurrent : dataOf s.keychain (s.genericPasswordQuery key) = none)
      (hdeleted : key ∈ s.legacyEntryDeletedForKey) : Reads s key faults (.ok none) s
  | missing (hcurrent : dataOf s.keychain (s.genericPasswordQuery key) = none)
      (hlegacy : s.legacyData key = none) :
      Reads s key faults (.ok none)
        { s with legacyEntryDeletedForKey := insert key s.legacyEntryDeletedForKey }
  | moved {d : δ} (hcurrent : dataOf s.keychain (s.genericPasswordQuery key) = none)
      (hdeleted : key ∉ s.legacyEntryDeletedForKey) (hlegacy : s.legacyData key = some d)
      (hset : (s.setData d key faults).1 = .ok ()) :
      Reads s key faults (.ok (some d)) ((s.setData d key faults).2.deleteLegacyItem key faults)

theorem reads (s : KeychainServices δ) (key : String) (faults : KeychainFaults) :
    Reads s key faults (s.dataForKey key faults).1 (s.dataForKey key faults).2 := by
  unfold dataForKey
  split
  · exact .failed
  · rename_i d hquery
    exact .found (itemWithQuery_ok hquery).symm
  · rename_i hquery
    have hcurrent := (itemWithQuery_ok hquery).symm
    split
    · rename_i hdeleted
      exact .deleted hcurrent hdeleted
    · rename_i hdeleted
      split
      · exact .failed
      · rename_i hlegacy
        exact .missing hcurrent (itemWithQuery_ok hlegacy).symm
      · rename_i d hlegacy
        split
        · rename_i error t hset
          rcases setData_cases s d key faults with ⟨hok, -⟩ | ⟨-, hsame, -⟩
          · rw [hset] at hok
            cases hok
          · rw [hset] at hsame
            obtain rfl : t = s := hsame
            exact .failed
        · rename_i t hset
          have hmoved : Reads s key faults (.ok (some d))
              ((s.setData d key faults).2.deleteLegacyItem key faults) :=
            .moved hcurrent hdeleted (itemWithQuery_ok hlegacy).symm (by rw [hset])
          rw [hset] at hmoved
          exact hmoved

/-- Reading answers with what the key holds, and leaves it there. -/
theorem dataForKey_spec (s : KeychainServices δ) (key : String) (faults : KeychainFaults) :
    (s.dataForKey key faults).2.data key = s.data key ∧
      (∀ found, (s.dataForKey key faults).1 = .ok found → found = s.data key) ∧
      (s.DeletesLegacy key faults → s.Settled key → (s.dataForKey key faults).2.Settled key) := by
  have hreads := reads s key faults
  generalize (s.dataForKey key faults).1 = result, (s.dataForKey key faults).2 = t at hreads
  cases hreads with
  | failed => exact ⟨rfl, fun _ h => (nomatch h), fun _ h => h⟩
  | found hcurrent =>
      refine ⟨rfl, ?_, fun _ h => h⟩
      rintro found ⟨⟩
      rw [data, hcurrent, Option.some_or]
  | deleted hcurrent hdeleted =>
      refine ⟨rfl, ?_, fun _ h => h⟩
      rintro found ⟨⟩
      rw [data, hcurrent, if_pos hdeleted, Option.none_or]
  | missing hcurrent hlegacy =>
      have hnone : s.data key = none := by
        rw [data, hcurrent, hlegacy, ite_self, Option.none_or]
      refine ⟨?_, ?_, fun _ _ _ => hlegacy⟩
      · rw [hnone, data, if_pos (Finset.mem_insert_self _ _), Option.or_none]
        exact hcurrent
      · rintro found ⟨⟩
        exact hnone.symm
  | @moved d hcurrent hdeleted hlegacy hset =>
      have hsome : s.data key = some d := by
        rw [data, hcurrent, if_neg hdeleted, hlegacy, Option.none_or]
      obtain ⟨hdata, hsettled⟩ := deleteLegacyItem_spec (s.setData d key faults).2 key faults
      rcases setData_cases s d key faults with ⟨-, hcurrent', hlegacy'⟩ | ⟨⟨error, herror⟩, -⟩
      · refine ⟨?_, ?_, ?_⟩
        · rw [hsome, hdata]
          exact hcurrent'
        · rintro found ⟨⟩
          exact hsome.symm
        · intro hdeletes h
          refine hsettled ?_ (h.setData d)
          rw [DeletesLegacy, hlegacy']
          exact hdeletes
      · rw [hset] at herror
        cases herror

/-- Where no call fails, reading does not. -/
theorem dataForKey_ok (s : KeychainServices δ) (key : String) :
    (s.dataForKey key {}).1 = .ok (s.data key) := by
  obtain ⟨-, hfound, -⟩ := dataForKey_spec s key {}
  suffices h : ∃ found, (s.dataForKey key {}).1 = .ok found by
    obtain ⟨found, hok⟩ := h
    rw [hok, hfound found hok]
  unfold dataForKey
  simp only [itemWithQuery_none]
  cases dataOf s.keychain (s.genericPasswordQuery key) with
  | some d => exact ⟨_, rfl⟩
  | none =>
      dsimp only
      split
      · exact ⟨_, rfl⟩
      · cases dataOf s.keychain (legacyGenericPasswordQuery key) with
        | none => exact ⟨_, rfl⟩
        | some d =>
            dsimp only
            split
            · rename_i error t hset
              rcases setData_cases s d key {} with ⟨hok, -⟩ | ⟨-, -, hfault⟩
              · rw [hset] at hok
                cases hok
              · exact absurd ⟨rfl, rfl, rfl⟩ hfault
            · exact ⟨_, rfl⟩

/-- Removing a key leaves nothing under it, or changes nothing. -/
theorem removeData_spec (s : KeychainServices δ) (key : String) (faults : KeychainFaults) :
    (((s.removeData key faults).1 = .ok () ∧ (s.removeData key faults).2.data key = none) ∨
        (∃ error, (s.removeData key faults).1 = .error error) ∧
          (s.removeData key faults).2 = s ∧ ¬faults.Writable) ∧
      (s.DeletesLegacy key faults → s.Settled key → (s.removeData key faults).2.Settled key) := by
  have hcases := deleteItemWithQuery_cases s.keychain (s.genericPasswordQuery key) faults
  unfold removeData
  split
  · rename_i error k hresult
    rw [hresult] at hcases
    rcases hcases with ⟨hok, -⟩ | ⟨-, rfl, hfault⟩
    · cases hok
    · exact ⟨.inr ⟨⟨error, rfl⟩, rfl, hfault⟩, fun _ h => h⟩
  · rename_i k hresult
    rw [hresult] at hcases
    rcases hcases with ⟨-, hnone⟩ | ⟨⟨error, herror⟩, -⟩
    · have hlegacy : KeychainServices.legacyData { s with keychain := k } key = s.legacyData key := by
        have hk : k = (deleteItemWithQuery s.keychain (s.genericPasswordQuery key) faults).2 := by
          rw [hresult]
        rw [hk]
        exact dataOf_congr (Keychain.matching_secItemDelete_of_ne (account_ne key).symm _)
      obtain ⟨hdata, hsettled⟩ := deleteLegacyItem_spec { s with keychain := k } key faults
      refine ⟨.inl ⟨rfl, hdata.trans hnone⟩, ?_⟩
      intro hdeletes h
      refine hsettled ?_ fun hdeleted => hlegacy.trans (h hdeleted)
      rw [DeletesLegacy, hlegacy]
      exact hdeletes
    · cases herror

-- ============================================================================
-- A legacy item that is left behind
-- ============================================================================

/-- Its deletion is not seen to fail. -/
theorem legacyData_deleteLegacyItem (hnew : key ∉ s.legacyEntryDeletedForKey) :
    (s.deleteLegacyItem key faults).legacyData key =
        (if faults.deleteLegacy = none then none else s.legacyData key) ∧
      key ∈ (s.deleteLegacyItem key faults).legacyEntryDeletedForKey := by
  rw [deleteLegacyItem, if_neg hnew]
  refine ⟨?_, Finset.mem_insert_self _ _⟩
  cases faults.deleteLegacy with
  | none =>
      rw [if_pos rfl, legacyData, dataOf_eq_none]
      exact Keychain.matching_secItemDelete _ _
  | some fault => rfl

theorem data_eq_legacyData (hnew : key ∉ s.legacyEntryDeletedForKey)
    (hcurrent : dataOf s.keychain (s.genericPasswordQuery key) = none) :
    s.data key = s.legacyData key := by
  rw [data, hcurrent, if_neg hnew, Option.none_or]

/-- A removal does not look for a legacy item that is taken to be deleted. -/
theorem data_reopened_removeData (hdeleted : key ∈ s.legacyEntryDeletedForKey)
    (hok : (s.removeData key faults).1 = .ok ()) :
    (s.removeData key faults).2.reopened.data key = s.legacyData key := by
  have hcases := deleteItemWithQuery_cases s.keychain (s.genericPasswordQuery key) faults
  unfold removeData at hok ⊢
  split at hok
  · cases hok
  · rename_i keychain hresult
    rw [hresult] at hcases
    rcases hcases with ⟨-, hnone⟩ | ⟨⟨error, herror⟩, -⟩
    · have hkeychain : keychain =
          (deleteItemWithQuery s.keychain (s.genericPasswordQuery key) faults).2 := by
        rw [hresult]
      have hlegacy : dataOf keychain (legacyGenericPasswordQuery key) = s.legacyData key := by
        rw [hkeychain]
        exact dataOf_congr (Keychain.matching_secItemDelete_of_ne (account_ne key).symm _)
      rw [deleteLegacyItem, if_pos hdeleted]
      exact (data_eq_legacyData (Finset.notMem_empty key) hnone).trans hlegacy
    · cases herror

/-- **Removed data can come back.**  A legacy item is moved when its key is read, and
    the key is then removed, without an error.  Opened again, the store holds
    nothing under the key if the legacy item could be deleted when it was moved;
    if not it holds the removed data again. -/
theorem dataForKey_removed {t : KeychainServices δ} {d : δ} {outFaults : KeychainFaults}
    (hnew : key ∉ s.legacyEntryDeletedForKey)
    (hcurrent : dataOf s.keychain (s.genericPasswordQuery key) = none)
    (hread : s.dataForKey key faults = (.ok (some d), t))
    (hremoved : (t.removeData key outFaults).1 = .ok ()) :
    ((t.removeData key outFaults).2.reopened.dataForKey key {}).1 =
      .ok (if faults.deleteLegacy = none then none else some d) := by
  have hreads := reads s key faults
  rw [hread] at hreads
  change Reads s key faults (.ok (some d)) t at hreads
  cases hreads with
  | found hfound =>
      rw [hcurrent] at hfound
      cases hfound
  | moved _ _ hlegacy hset =>
      have hkept : (s.setData d key faults).2.legacyData key = some d := by
        rcases setData_cases s d key faults with ⟨-, -, hkept⟩ | ⟨⟨error, herror⟩, -⟩
        · exact hkept.trans hlegacy
        · rw [hset] at herror
          cases herror
      let moved : KeychainServices δ := (s.setData d key faults).2.deleteLegacyItem key faults
      have hleft : moved.legacyData key = (if faults.deleteLegacy = none then none else some d) ∧
          key ∈ moved.legacyEntryDeletedForKey := by
        rw [← hkept]
        exact legacyData_deleteLegacyItem hnew
      rw [dataForKey_ok, data_reopened_removeData hleft.2 hremoved, hleft.1]

/-- An app credential that an earlier version has written. -/
def legacyStore : KeychainServices Nat := ⟨"firebase_auth_1", ∅, [⟨"app_credentials", none, 7⟩]⟩

/-- Its deletion fails, and it is there again. -/
theorem dataForKey_removed_legacyStore :
    let locked : KeychainFaults := { deleteLegacy := some .interactionNotAllowed }
    let t := (legacyStore.dataForKey "app_credentials" locked).2
    (t.removeData "app_credentials" {}).1 = .ok () ∧
      ((t.removeData "app_credentials" {}).2.reopened.dataForKey "app_credentials" {}).1 =
        .ok (some 7) := by
  intro locked t
  have hread : legacyStore.dataForKey "app_credentials" locked = (.ok (some 7), t) := rfl
  have hremoved : (t.removeData "app_credentials" {}).1 = .ok () := rfl
  exact ⟨hremoved, dataForKey_removed (Finset.notMem_empty _) rfl hread hremoved⟩

-- ============================================================================
-- Histories
-- ============================================================================

section Histories

variable {keys : Set String}

/-- What is asked of the store, or that it is opened again. -/
inductive Event (keys : Set String) (δ : Type)
  | dataForKey (key : keys) (faults : KeychainFaults)
  | setData (data : δ) (key : keys) (faults : KeychainFaults)
  | removeData (key : keys) (faults : KeychainFaults)
  | reopened

def next (s : KeychainServices δ) : Event keys δ → KeychainServices δ
  | .dataForKey key faults => (s.dataForKey key faults).2
  | .setData data key faults => (s.setData data key faults).2
  | .removeData key faults => (s.removeData key faults).2
  | .reopened => s.reopened

def step (s : KeychainServices δ) (e : Event keys δ) : Option (KeychainServices δ) :=
  some (s.next e)

/-- An operation on a map and the answer it got. -/
inductive Operation (keys : Set String) (δ : Type)
  | read (key : keys) (answer : Except KeychainError (Option δ))
  | wrote (key : keys) (data : Option δ) (answer : Except KeychainError Unit)

/-- A map that answers as the store did: with what it holds, and a write that was
    answered with an error is none. -/
def answer [DecidableEq δ] (m : keys → Option δ) : Operation keys δ → Option (keys → Option δ)
  | .read key (.ok found) => if found = m key then some m else none
  | .wrote key data (.ok ()) => some (Function.update m key data)
  | .read _ (.error _) => some m
  | .wrote _ _ (.error _) => some m

variable (keys) in
/-- The map that the store stands for. -/
def held (s : KeychainServices δ) : keys → Option δ := fun key => s.data key

end Histories

end KeychainServices

end Spark.Firebase
