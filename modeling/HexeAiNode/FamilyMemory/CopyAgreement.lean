import HexeAiNode.FamilyMemory.Retrieval

/-!
# Whether the copies of a memory agree

`CopiesAgree records s` says of a store that the copies of every memory are those of its last version: one in
the partition of each of its subjects, none in any other.  `NoneSuperseded` says that retrieval returns last
versions only.

An upsert writes the partitions of the new version's subjects, so a copy of an older version stays where the
new version has no subject.  `copies_agree_iff` says that this is the only way for copies to disagree: they
agree all along a list of upserts exactly if each of these covers the partitions that hold its memory.
-/

namespace HexeAiNode
namespace FamilyMemory

open Py

namespace EncryptedFamilyMemoryStore

variable {s : EncryptedFamilyMemoryStore} {records : List FamilyMemoryRecord}

/-- The last version of a memory. -/
def lastVersion (records : List FamilyMemoryRecord) (m : String) : Option FamilyMemoryRecord :=
  copyLayout.latest records m

/-- The copies found in every partition are those of the last versions. -/
def CopiesAgree (records : List FamilyMemoryRecord) (s : EncryptedFamilyMemoryStore) : Prop :=
  ∀ k, ∃ found, s.loadPartition k = .ok found ∧
    ∀ m, found.filter (fun r => r.memoryId = m) =
      ((lastVersion records m).filter fun r => k ∈ r.subjectPersonIds.map r.partition).toList

/-- Retrieval returns no version that a later one has replaced. -/
def NoneSuperseded (records : List FamilyMemoryRecord) (s : EncryptedFamilyMemoryStore) : Prop :=
  ∀ (q : RetrievalRequest) clock d returned, s.retrieve q clock = .ok (d, returned) →
    ∀ r ∈ returned, lastVersion records r.memoryId = some r

/-- Every partition that holds a copy of the record's memory is one of the record's. -/
def Covers (s : EncryptedFamilyMemoryStore) (r : FamilyMemoryRecord) : Prop :=
  ∀ k found, s.loadPartition k = .ok found → (∃ r' ∈ found, r'.memoryId = r.memoryId) →
    k ∈ r.subjectPersonIds.map r.partition

/-- In a list with distinct ids, the records with an id. -/
theorem filter_memoryId {found : List FamilyMemoryRecord} (hnodup : (memoryIds found).Nodup) (m : String) :
    found.filter (fun r => r.memoryId = m) = (found.find? fun r => r.memoryId = m).toList := by
  induction found with
  | nil => rfl
  | cons r found ih =>
    rw [memoryIds, List.map_cons, List.nodup_cons] at hnodup
    by_cases hm : r.memoryId = m
    · have hrest : found.filter (fun r => r.memoryId = m) = [] := by
        refine List.filter_eq_nil_iff.mpr fun r' hr' hid => hnodup.1 ?_
        exact List.mem_map.mpr ⟨r', hr', (decide_eq_true_iff.mp hid).trans hm.symm⟩
      rw [List.filter_cons_of_pos (by simpa using hm), hrest, List.find?_cons_of_pos (by simpa using hm)]
      rfl
    · rw [List.filter_cons_of_neg (by simpa using hm), List.find?_cons_of_neg (by simpa using hm)]
      exact ih hnodup.2

theorem home_eq (r : FamilyMemoryRecord) (k : PartitionKey) :
    copyLayout.home r k = decide (k ∈ r.subjectPersonIds.map r.partition) := by
  rw [Bool.eq_iff_iff, decide_eq_true_iff]
  exact FamilyMemoryRecord.inScope_iff_mem

/-- Agreement of the copies is agreement of the view. -/
theorem Tidy.copiesAgree_iff (h : s.Tidy) : CopiesAgree records s ↔ copyLayout.Agree records s.copies := by
  have hhome : ∀ k, (fun r => copyLayout.home r k) = fun r => decide (k ∈ r.subjectPersonIds.map r.partition) :=
    fun k => funext fun r => home_eq r k
  constructor
  · intro hagree k m
    obtain ⟨found, hload, hfound⟩ := hagree k
    have hrecords := recordsOf_of_loadPartition hload
    have hm := hfound m
    rw [← hrecords, filter_memoryId (h.nodup_ids k)] at hm
    ext r
    rw [hhome, ← Option.toList_eq_singleton_iff, ← Option.toList_eq_singleton_iff]
    exact iff_of_eq (congrArg (· = [r]) hm)
  · intro hagree k
    refine ⟨_, h.loads k, fun m => ?_⟩
    rw [filter_memoryId (h.nodup_ids k), ← hhome]
    exact congrArg Option.toList (hagree k m)

theorem Tidy.covers_iff (h : s.Tidy) {r : FamilyMemoryRecord} : s.Covers r ↔ copyLayout.Covers s.copies r := by
  have hsome : ∀ k, (s.copies k r.memoryId).isSome = true ↔ ∃ r' ∈ s.recordsOf k, r'.memoryId = r.memoryId := by
    intro k
    rw [Option.isSome_iff_exists]
    exact exists_congr fun r' => h.copies_eq_some
  constructor
  · intro hcovers k hk
    rw [home_eq, decide_eq_true_iff]
    exact hcovers k _ (h.loads k) ((hsome k).mp hk)
  · intro hcovers k found hload hk
    have hrecords := recordsOf_of_loadPartition hload
    have hhome := hcovers k ((hsome k).mpr (hrecords.symm ▸ hk))
    rwa [home_eq, decide_eq_true_iff] at hhome

/-- Where the copies agree, what is retrieved is a last version. -/
theorem Tidy.noneSuperseded (h : s.Tidy) (hagree : CopiesAgree records s) : NoneSuperseded records s := by
  intro q clock d returned hretrieve r hr
  obtain ⟨-, p, -, -, hrecord, -⟩ := mem_of_retrieve hretrieve hr
  exact (h.copiesAgree_iff.mp hagree).latest_of_eq_some (h.copies_eq_some.mpr ⟨hrecord, rfl⟩)

/-- **The copies agree all along a list of upserts exactly if every upsert covers those that are there.** -/
theorem copies_agree_iff (records : List FamilyMemoryRecord) :
    (∀ earlier, earlier <+: records →
      CopiesAgree earlier (afterUpserts earlier) ∧ NoneSuperseded earlier (afterUpserts earlier)) ↔
      Run.Along afterUpsert Covers (fun _ => none) records := by
  have hagree : (∀ earlier, earlier <+: records →
      CopiesAgree earlier (afterUpserts earlier) ∧ NoneSuperseded earlier (afterUpserts earlier)) ↔
      ∀ earlier, earlier <+: records → CopiesAgree earlier (afterUpserts earlier) := by
    refine forall_congr' fun earlier => imp_congr_right fun _ => and_iff_left_of_imp ?_
    exact (tidy_after tidy_empty earlier).noneSuperseded
  rw [hagree]
  refine Run.forall_prefix_iff_along (A := CopiesAgree) ?_ (fun earlier r hearlier => ?_) records
  · exact tidy_empty.copiesAgree_iff.mpr copyLayout.agree_nil
  · have htidy := tidy_after tidy_empty earlier
    rw [Run.after_append, Run.after_cons, Run.after_nil, (htidy.upsert r).2.1.copiesAgree_iff,
      (htidy.upsert r).2.2, htidy.covers_iff]
    exact copyLayout.agree_write_iff (htidy.copiesAgree_iff.mp hearlier) r

/-! ## A version with fewer subjects -/

/-- A record of a household about some of its people. -/
def householdFields (personIds : List String) (updatedAt : ℤ) (status : MemoryLifecycleStatus) :
    FamilyMemoryFields where
  memoryId := "memory_1"
  coreId := "core_1"
  householdId := "household_1"
  subjectPersonIds := personIds
  visibility := .household
  summary := "Allergic to peanuts."
  sensitivity := .personal
  consentIds := ["consent_1"]
  sourceInteractionId := "interaction_1"
  createdAt := { microseconds := 0 }
  updatedAt := { microseconds := updatedAt }
  status := status

/-- A memory about two people. -/
def sharedVersion : FamilyMemoryRecord :=
  ⟨householdFields ["person_1", "person_2"] 0 .active, by decide +kernel⟩

/-- Its next version: about the second of them, and deleted. -/
def deletedVersion : FamilyMemoryRecord :=
  ⟨householdFields ["person_2"] 1000000 .deleted, by decide +kernel⟩

/-- A request for what the household knows about both. -/
def bothPersonsRequest : RetrievalRequest where
  authorization := some
    { authorizationId := "authz_1"
      coreId := "core_1"
      householdId := "household_1"
      platformRole := .member
      participants := []
      roomId := none
      operation :=
        { kind := .read, risk := .personal, requestedVisibility := [.household]
          requested_ne_nil := List.cons_ne_nil _ _ }
      decision :=
        { effect := .allow
          allowedPersonIds := ["person_1", "person_2"]
          allowedVisibility := [.household]
          allowedActions := [.read]
          consentIds := ["consent_1"]
          identifiers := by decide }
      issuedAt := 0
      expiresAt := 60000000
      identifiers := by decide
      room_identifier := fun r hr => (nomatch hr)
      lifetime := by decide }
  visibility := .household
  subjectPersonIds := ["person_1", "person_2"]
  expectedCoreId := "core_1"
  expectedHouseholdId := "household_1"

/-- The two versions, and what there is of them after both upserts. -/
theorem deletedVersion_facts :
    lastVersion [sharedVersion, deletedVersion] "memory_1" = some deletedVersion ∧ sharedVersion ≠ deletedVersion ∧
      sharedVersion.partition "person_1" ∉ deletedVersion.subjectPersonIds.map deletedVersion.partition ∧
      sharedVersion.memoryId = "memory_1" := by
  decide +kernel

theorem recordsOf_deletedVersion :
    (afterUpserts [sharedVersion, deletedVersion]).recordsOf (sharedVersion.partition "person_1") =
        [sharedVersion] ∧
      ((afterUpserts [sharedVersion, deletedVersion]).retrieve bothPersonsRequest 5000000).toOption.map Prod.snd =
        some [sharedVersion] := by
  decide +kernel

/-- **Copies need not agree**: the partition of the person who is no longer a subject keeps the older version,
and retrieval returns it after the memory was deleted. -/
theorem not_copiesAgree_deletedVersion :
    ¬CopiesAgree [sharedVersion, deletedVersion] (afterUpserts [sharedVersion, deletedVersion]) ∧
      ¬NoneSuperseded [sharedVersion, deletedVersion] (afterUpserts [sharedVersion, deletedVersion]) := by
  obtain ⟨hlast, hne, hpartition, hid⟩ := deletedVersion_facts
  obtain ⟨hrecords, hreturned⟩ := recordsOf_deletedVersion
  constructor
  · intro hagree
    obtain ⟨found, hload, hfound⟩ := hagree (sharedVersion.partition "person_1")
    have hm := hfound "memory_1"
    rw [← recordsOf_of_loadPartition hload, hrecords, hlast, Option.filter_some,
      if_neg (by simpa using hpartition)] at hm
    simp [hid] at hm
  · intro hnone
    rcases hretrieve : (afterUpserts [sharedVersion, deletedVersion]).retrieve bothPersonsRequest 5000000 with
      e | ⟨d, returned⟩
    · rw [hretrieve] at hreturned
      cases hreturned
    · rw [hretrieve] at hreturned
      have hreturned : returned = [sharedVersion] := Option.some.inj hreturned
      have hmem : sharedVersion ∈ returned := hreturned ▸ List.mem_singleton.mpr rfl
      have hshared := hnone _ _ d returned hretrieve sharedVersion hmem
      rw [hid, hlast] at hshared
      exact hne (Option.some.inj hshared).symm

end EncryptedFamilyMemoryStore

end FamilyMemory
end HexeAiNode
