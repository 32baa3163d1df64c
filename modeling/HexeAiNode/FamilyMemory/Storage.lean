import Mathlib.Data.List.Sort
import HexeAiNode.FamilyMemory.Models
import HexeAiNode.Library.Copies
import HexeAiNode.Python.OrderedDict

/-!
# The family memory store

`EncryptedFamilyMemoryStore`: one file for each core, household and person.  The path of a file is made of
digests of the three, which do not collide, so a store is a function from partition keys to files.  A file is
read with the key that it was written with: what can be told of it is its list of documents, or that it
cannot be read.

An upsert goes through the partitions of the record's subjects, and leaves the other partitions alone.
`copies` is the abstract view of a store, a record for a partition and a memory id, and on stores whose
partitions can be read and list no id twice (`Tidy`) an upsert is a write of that view (`copies_upsert`).
-/

namespace HexeAiNode
namespace FamilyMemory

open Py

/-! ## Partitions -/

/-- The scope that a file is for. -/
structure PartitionKey where
  coreId : String
  householdId : String
  personId : String
  deriving DecidableEq, Repr

/-- A file: of another schema version, not to be deciphered or parsed, or a list of documents. -/
inductive PartitionFile where
  | foreignVersion
  | undecipherable
  | payload (items : List FamilyMemoryFields)

/-- The files of a store. -/
abbrev EncryptedFamilyMemoryStore := PartitionKey → Option PartitionFile

/-- A `FamilyMemoryStoreError`. -/
def storeError (reason : String) : Exc := ⟨.other "FamilyMemoryStoreError", reason⟩

/-- The partition of a person, in the scope of a record. -/
def FamilyMemoryRecord.partition (r : FamilyMemoryRecord) (personId : String) : PartitionKey :=
  { coreId := r.coreId, householdId := r.householdId, personId := personId }

/-- The record belongs into the partition. -/
def FamilyMemoryRecord.inScope (r : FamilyMemoryRecord) (k : PartitionKey) : Bool :=
  r.coreId == k.coreId && r.householdId == k.householdId && r.subjectPersonIds.contains k.personId

theorem FamilyMemoryRecord.inScope_iff {r : FamilyMemoryRecord} {k : PartitionKey} :
    r.inScope k = true ↔
      r.coreId = k.coreId ∧ r.householdId = k.householdId ∧ k.personId ∈ r.subjectPersonIds := by
  simp [inScope, and_assoc]

theorem FamilyMemoryRecord.inScope_iff_mem {r : FamilyMemoryRecord} {k : PartitionKey} :
    r.inScope k = true ↔ k ∈ r.subjectPersonIds.map r.partition := by
  rw [inScope_iff, List.mem_map]
  constructor
  · rintro ⟨hcore, hhousehold, hperson⟩
    refine ⟨k.personId, hperson, ?_⟩
    rw [partition, hcore, hhousehold]
  · rintro ⟨p, hp, rfl⟩
    exact ⟨rfl, rfl, hp⟩

/-- `{item.memory_id: item for item in records}`, over an earlier dictionary. -/
def addById (d : OrderedDict String FamilyMemoryRecord) (records : List FamilyMemoryRecord) :
    OrderedDict String FamilyMemoryRecord :=
  records.foldl (fun d r => d.set r.memoryId r) d

/-- `sorted(records, key=lambda item: item.memory_id)`. -/
def sortedById (records : List FamilyMemoryRecord) : List FamilyMemoryRecord :=
  records.insertionSort fun a b => a.memoryId.toList ≤ b.memoryId.toList

namespace EncryptedFamilyMemoryStore

/-- `load_partition`. -/
def loadPartition (s : EncryptedFamilyMemoryStore) (k : PartitionKey) :
    Except Exc (List FamilyMemoryRecord) :=
  match s k with
  | none => .ok []
  | some .foreignVersion => .error (storeError "family_memory_store_version_unsupported")
  | some .undecipherable => .error (storeError "family_memory_store_decryption_failed")
  | some (.payload items) =>
    match items.mapM FamilyMemoryRecord.modelValidate with
    | .error _ => .error (storeError "family_memory_store_decryption_failed")
    | .ok records =>
      if records.all fun r => r.inScope k then .ok records
      else .error (storeError "family_memory_store_scope_mismatch")

/-- `_save_partition_locked`. -/
def savePartition (s : EncryptedFamilyMemoryStore) (k : PartitionKey) (records : List FamilyMemoryRecord) :
    EncryptedFamilyMemoryStore :=
  Function.update s k (some (.payload (records.map FamilyMemoryRecord.modelDump)))

/-- The loop of `upsert` over the subjects that are left.  A partition that cannot be read ends it, and the
partitions before keep what was written. -/
def upsertPartitions (r : FamilyMemoryRecord) :
    List String → EncryptedFamilyMemoryStore → Except Exc Unit × EncryptedFamilyMemoryStore
  | [], s => (.ok (), s)
  | personId :: personIds, s =>
    match s.loadPartition (r.partition personId) with
    | .error e => (.error e, s)
    | .ok records =>
      upsertPartitions r personIds
        (s.savePartition (r.partition personId) (sortedById ((addById .empty records).set r.memoryId r).values))

/-- `upsert`. -/
def upsert (s : EncryptedFamilyMemoryStore) (r : FamilyMemoryRecord) :
    Except Exc Unit × EncryptedFamilyMemoryStore :=
  upsertPartitions r r.subjectPersonIds s

/-- The store after a call of `upsert`. -/
def afterUpsert (s : EncryptedFamilyMemoryStore) (r : FamilyMemoryRecord) : EncryptedFamilyMemoryStore :=
  (s.upsert r).2

end EncryptedFamilyMemoryStore

/-! ## Dictionaries by memory id -/

/-- The memory ids of a list. -/
def memoryIds (records : List FamilyMemoryRecord) : List String := records.map fun r => r.memoryId

/-- Every record stands under its own id. -/
def ById (d : OrderedDict String FamilyMemoryRecord) : Prop := ∀ e ∈ d.entries, e.1 = e.2.memoryId

namespace ById

variable {d : OrderedDict String FamilyMemoryRecord}

theorem empty : ById .empty := fun _ he => absurd he List.not_mem_nil

theorem id_of_get? (h : ById d) {m : String} {r : FamilyMemoryRecord} (hr : d.get? m = some r) :
    r.memoryId = m :=
  (h (m, r) (Assoc.mem_of_get? hr)).symm

theorem set (h : ById d) (r : FamilyMemoryRecord) : ById (d.set r.memoryId r) := by
  rintro ⟨m, r'⟩ he
  have hget := OrderedDict.get?_of_mem_entries he
  rw [OrderedDict.get?_set] at hget
  split at hget
  · next hm =>
    obtain rfl := Option.some.inj hget
    exact hm
  · exact (h.id_of_get? hget).symm

theorem addById (h : ById d) (records : List FamilyMemoryRecord) : ById (addById d records) := by
  induction records generalizing d with
  | nil => exact h
  | cons r records ih => exact ih (h.set r)

theorem mem_values_iff (h : ById d) {r : FamilyMemoryRecord} :
    r ∈ d.values ↔ d.get? r.memoryId = some r := by
  constructor
  · intro hr
    obtain ⟨⟨m, r'⟩, he, rfl⟩ := List.mem_map.mp hr
    rw [← h _ he]
    exact OrderedDict.get?_of_mem_entries he
  · exact OrderedDict.mem_values_of_get?

theorem nodup_ids (h : ById d) : (memoryIds d.values).Nodup := by
  have hkeys : memoryIds d.values = d.keys := by
    unfold memoryIds OrderedDict.values OrderedDict.keys Assoc.keys
    rw [List.map_map]
    exact List.map_congr_left fun e he => (h e he).symm
  rw [hkeys]
  exact d.distinct

end ById

/-- How the records are kept: under their id, a copy in the partition of each subject. -/
def copyLayout : Layout PartitionKey String FamilyMemoryRecord where
  key r := r.memoryId
  home r k := r.inScope k

theorem get?_addById (d : OrderedDict String FamilyMemoryRecord) (records : List FamilyMemoryRecord)
    (m : String) : (addById d records).get? m = (copyLayout.latest records m).or (d.get? m) := by
  induction records using List.reverseRecOn with
  | nil => rfl
  | append_singleton records r ih =>
    have hadd : addById d (records ++ [r]) = (addById d records).set r.memoryId r := List.foldl_concat ..
    rw [hadd, OrderedDict.get?_set, ih, Layout.latest_concat]
    by_cases h : m = r.memoryId
    · rw [if_pos h, if_pos (show copyLayout.key r = m from h.symm), Option.some_or]
    · rw [if_neg h, if_neg (show copyLayout.key r ≠ m from Ne.symm h)]

/-- In a list with distinct ids, the record with an id. -/
theorem find?_memoryId_eq_some {records : List FamilyMemoryRecord}
    (hnodup : (memoryIds records).Nodup) {m : String} {r : FamilyMemoryRecord} :
    (records.find? fun r => r.memoryId = m) = some r ↔ r ∈ records ∧ r.memoryId = m := by
  constructor
  · intro h
    exact ⟨List.mem_of_find?_eq_some h, by simpa using List.find?_some h⟩
  · rintro ⟨hr, rfl⟩
    induction records with
    | nil => cases hr
    | cons r' records ih =>
      rw [memoryIds, List.map_cons, List.nodup_cons] at hnodup
      rcases List.mem_cons.mp hr with rfl | hr
      · simp
      · have hne : r'.memoryId ≠ r.memoryId := fun hid =>
          hnodup.1 (List.mem_map.mpr ⟨r, hr, hid.symm⟩)
        rw [List.find?_cons_of_neg (by simpa using hne)]
        exact ih hnodup.2 hr

/-! ## The view of a store -/

namespace EncryptedFamilyMemoryStore

variable {s : EncryptedFamilyMemoryStore} {k : PartitionKey}

/-- The records of a partition: none where it cannot be read. -/
def recordsOf (s : EncryptedFamilyMemoryStore) (k : PartitionKey) : List FamilyMemoryRecord :=
  (s.loadPartition k).toOption.getD []

/-- The copy that a partition holds of a memory. -/
def copies (s : EncryptedFamilyMemoryStore) (k : PartitionKey) (m : String) : Option FamilyMemoryRecord :=
  (s.recordsOf k).find? fun r => r.memoryId = m

/-- Every partition can be read and lists no id twice. -/
structure Tidy (s : EncryptedFamilyMemoryStore) : Prop where
  loads : ∀ k, s.loadPartition k = .ok (s.recordsOf k)
  nodup_ids : ∀ k, (memoryIds (s.recordsOf k)).Nodup

theorem recordsOf_of_loadPartition {records : List FamilyMemoryRecord}
    (h : s.loadPartition k = .ok records) : s.recordsOf k = records := by
  rw [recordsOf, h]
  rfl

theorem tidy_empty : Tidy fun _ => none := ⟨fun _ => rfl, fun _ => List.nodup_nil⟩

theorem Tidy.copies_eq_some (h : s.Tidy) {m : String} {r : FamilyMemoryRecord} :
    s.copies k m = some r ↔ r ∈ s.recordsOf k ∧ r.memoryId = m :=
  find?_memoryId_eq_some (h.nodup_ids k)

/-- **Every record that a partition loads belongs into it.** -/
theorem inScope_of_loadPartition {records : List FamilyMemoryRecord} (h : s.loadPartition k = .ok records)
    {r : FamilyMemoryRecord} (hr : r ∈ records) : r.inScope k = true := by
  unfold loadPartition at h
  split at h
  · obtain rfl := Except.ok.inj h
    cases hr
  · cases h
  · cases h
  · split at h
    · cases h
    · split at h
      · next hall =>
        obtain rfl := Except.ok.inj h
        exact List.all_eq_true.mp hall r hr
      · cases h

theorem mapM_modelDump (records : List FamilyMemoryRecord) :
    (records.map FamilyMemoryRecord.modelDump).mapM FamilyMemoryRecord.modelValidate = .ok records := by
  induction records with
  | nil => rfl
  | cons r records ih =>
    rw [List.map_cons, List.mapM_cons, FamilyMemoryRecord.modelValidate_modelDump, ih]
    rfl

/-- A partition that was saved loads what was saved, if that belongs into it. -/
theorem loadPartition_savePartition_self {records : List FamilyMemoryRecord}
    (h : ∀ r ∈ records, r.inScope k = true) : (s.savePartition k records).loadPartition k = .ok records := by
  unfold loadPartition savePartition
  rw [Function.update_self]
  dsimp only
  rw [mapM_modelDump]
  dsimp only
  rw [if_pos (List.all_eq_true.mpr h)]

theorem loadPartition_savePartition_of_ne {k' : PartitionKey} (records : List FamilyMemoryRecord)
    (h : k' ≠ k) : (s.savePartition k records).loadPartition k' = s.loadPartition k' := by
  unfold loadPartition savePartition
  rw [Function.update_of_ne h]

/-! ## An upsert -/

/-- What an upsert writes to a partition. -/
def merged (records : List FamilyMemoryRecord) (r : FamilyMemoryRecord) : List FamilyMemoryRecord :=
  sortedById ((addById .empty records).set r.memoryId r).values

theorem mem_merged {records : List FamilyMemoryRecord}
    (hnodup : (memoryIds records).Nodup) {r r' : FamilyMemoryRecord} :
    r' ∈ merged records r ↔ r' = r ∨ r' ∈ records ∧ r'.memoryId ≠ r.memoryId := by
  have hlatest : ∀ m, copyLayout.latest records m = records.find? fun r => r.memoryId = m := by
    intro m
    ext r₁
    have hreverse : (memoryIds records.reverse).Nodup := by
      rw [memoryIds, List.map_reverse]
      exact List.nodup_reverse.mpr hnodup
    rw [find?_memoryId_eq_some hnodup, ← List.mem_reverse, ← find?_memoryId_eq_some hreverse]
    rfl
  unfold merged sortedById
  rw [List.mem_insertionSort, ((ById.empty.addById records).set r).mem_values_iff, OrderedDict.get?_set]
  by_cases hid : r'.memoryId = r.memoryId
  · rw [if_pos hid, Option.some.injEq]
    simp [hid, eq_comm]
  · rw [if_neg hid, get?_addById, OrderedDict.get?_empty, Option.or_none, hlatest,
      find?_memoryId_eq_some hnodup]
    have hne : r' ≠ r := fun h => hid (by rw [h])
    simp [hid, hne]

theorem nodup_merged (records : List FamilyMemoryRecord) (r : FamilyMemoryRecord) :
    (memoryIds (merged records r)).Nodup := by
  have hperm := List.perm_insertionSort (fun a b : FamilyMemoryRecord => a.memoryId.toList ≤ b.memoryId.toList)
    ((addById .empty records).set r.memoryId r).values
  exact (hperm.map _).nodup_iff.mpr ((ById.empty.addById records).set r).nodup_ids

/-- **Writing one partition of a record** changes one copy of its view. -/
theorem Tidy.save_merged (h : s.Tidy) {r : FamilyMemoryRecord} (hk : r.inScope k = true) :
    (s.savePartition k (merged (s.recordsOf k) r)).Tidy ∧
      ∀ k' m, (s.savePartition k (merged (s.recordsOf k) r)).copies k' m =
        if m = r.memoryId ∧ k' = k then some r else s.copies k' m := by
  have hmem : ∀ r', r' ∈ merged (s.recordsOf k) r ↔ r' = r ∨ r' ∈ s.recordsOf k ∧ r'.memoryId ≠ r.memoryId :=
    fun _ => mem_merged (h.nodup_ids k)
  have hscope : ∀ r' ∈ merged (s.recordsOf k) r, r'.inScope k = true := by
    intro r' hr'
    rcases (hmem r').mp hr' with rfl | ⟨hr', -⟩
    · exact hk
    · exact inScope_of_loadPartition (h.loads k) hr'
  have hself := loadPartition_savePartition_self (s := s) hscope
  have hrecords := recordsOf_of_loadPartition hself
  have hother : ∀ {k'}, k' ≠ k → (s.savePartition k (merged (s.recordsOf k) r)).recordsOf k' = s.recordsOf k' := by
    intro k' hne
    rw [recordsOf, loadPartition_savePartition_of_ne _ hne]
    rfl
  refine ⟨⟨fun k' => ?_, fun k' => ?_⟩, fun k' m => ?_⟩
  · by_cases hne : k' = k
    · subst hne
      rw [hrecords, hself]
    · rw [hother hne, loadPartition_savePartition_of_ne _ hne]
      exact h.loads k'
  · by_cases hne : k' = k
    · subst hne
      rw [hrecords]
      exact nodup_merged _ r
    · rw [hother hne]
      exact h.nodup_ids k'
  · by_cases hne : k' = k
    · subst hne
      ext r'
      rw [copies, hrecords, find?_memoryId_eq_some (nodup_merged _ r), hmem]
      by_cases hm : m = r.memoryId
      · rw [if_pos ⟨hm, rfl⟩, Option.some.injEq]
        constructor
        · rintro ⟨rfl | ⟨-, hid⟩, rfl⟩
          · rfl
          · exact absurd hm hid
        · rintro rfl
          exact ⟨Or.inl rfl, hm.symm⟩
      · rw [if_neg fun hboth => hm hboth.1, h.copies_eq_some]
        constructor
        · rintro ⟨rfl | ⟨hr', -⟩, hid⟩
          · exact absurd hid.symm hm
          · exact ⟨hr', hid⟩
        · rintro ⟨hr', rfl⟩
          exact ⟨Or.inr ⟨hr', hm⟩, rfl⟩
    · rw [if_neg fun hboth => hne hboth.2, copies, copies, hother hne]

/-- The loop of an upsert, over persons that the record is about. -/
theorem Tidy.upsertPartitions (h : s.Tidy) {r : FamilyMemoryRecord} {personIds : List String}
    (hps : ∀ p ∈ personIds, r.inScope (r.partition p) = true) :
    (upsertPartitions r personIds s).1 = .ok () ∧ (upsertPartitions r personIds s).2.Tidy ∧
      ∀ k m, (upsertPartitions r personIds s).2.copies k m =
        if m = r.memoryId ∧ k ∈ personIds.map r.partition then some r else s.copies k m := by
  induction personIds generalizing s with
  | nil => exact ⟨rfl, h, fun k m => by simp [EncryptedFamilyMemoryStore.upsertPartitions]⟩
  | cons p personIds ih =>
    obtain ⟨htidy, hcopies⟩ := h.save_merged (hps p List.mem_cons_self)
    obtain ⟨hok, htidy', hcopies'⟩ := ih htidy fun q hq => hps q (List.mem_cons_of_mem p hq)
    have hstep : EncryptedFamilyMemoryStore.upsertPartitions r (p :: personIds) s =
        EncryptedFamilyMemoryStore.upsertPartitions r personIds
          (s.savePartition (r.partition p) (merged (s.recordsOf (r.partition p)) r)) := by
      rw [EncryptedFamilyMemoryStore.upsertPartitions, h.loads]
      rfl
    rw [hstep]
    refine ⟨hok, htidy', fun k m => ?_⟩
    rw [hcopies', hcopies]
    by_cases hk : m = r.memoryId ∧ k ∈ personIds.map r.partition
    · rw [if_pos hk, if_pos ⟨hk.1, List.mem_cons_of_mem _ hk.2⟩]
    · rw [if_neg hk]
      refine if_congr (and_congr_right fun hm => ?_) rfl rfl
      rw [List.map_cons, List.mem_cons, or_iff_left fun hmem => hk ⟨hm, hmem⟩]

/-- **An upsert is a write of the view**: it goes through, and a copy of the record is in the partition of
each of its subjects. -/
theorem Tidy.upsert (h : s.Tidy) (r : FamilyMemoryRecord) :
    (s.upsert r).1 = .ok () ∧ (s.afterUpsert r).Tidy ∧
      (s.afterUpsert r).copies = copyLayout.write s.copies r := by
  have hscope : ∀ p ∈ r.subjectPersonIds, r.inScope (r.partition p) = true := fun p hp =>
    FamilyMemoryRecord.inScope_iff_mem.mpr (List.mem_map_of_mem hp)
  obtain ⟨hok, htidy, hcopies⟩ := h.upsertPartitions hscope
  refine ⟨hok, htidy, funext fun k => funext fun m => ?_⟩
  refine (hcopies k m).trans (if_congr (and_congr_right fun _ => ?_) rfl rfl)
  exact FamilyMemoryRecord.inScope_iff_mem.symm

/-- The records of a store that was empty before an upsert. -/
theorem mem_recordsOf_afterUpsert_empty {r r' : FamilyMemoryRecord} :
    r' ∈ (afterUpsert (fun _ => none) r).recordsOf k ↔ r' = r ∧ r.inScope k = true := by
  obtain ⟨-, htidy, hcopies⟩ := tidy_empty.upsert r
  have hcopy : ∀ m, (afterUpsert (fun _ => none) r).copies k m =
      if m = r.memoryId ∧ r.inScope k = true then some r else none := fun m => congrFun (congrFun hcopies k) m
  constructor
  · intro hr'
    have hsome := htidy.copies_eq_some.mpr ⟨hr', rfl⟩
    rw [hcopy] at hsome
    split at hsome
    · next hboth => exact ⟨(Option.some.inj hsome).symm, hboth.2⟩
    · cases hsome
  · rintro ⟨rfl, hscope⟩
    refine (htidy.copies_eq_some (m := r'.memoryId)).mp ?_ |>.1
    rw [hcopy, if_pos ⟨rfl, hscope⟩]

/-- The stores that a list of upserts leads to, from the empty one. -/
def afterUpserts (records : List FamilyMemoryRecord) : EncryptedFamilyMemoryStore :=
  Run.after afterUpsert (fun _ => none) records

theorem tidy_after (h : s.Tidy) (records : List FamilyMemoryRecord) : (Run.after afterUpsert s records).Tidy :=
  Run.after_keeps (I := Tidy) records h fun _ r hs => (hs.upsert r).2.1

/-- **Upserts refine writes**: the view of the store is what the writes leave. -/
theorem copies_after (h : s.Tidy) (records : List FamilyMemoryRecord) :
    (Run.after afterUpsert s records).copies = Run.after copyLayout.write s.copies records := by
  induction records generalizing s with
  | nil => rfl
  | cons r records ih =>
    rw [Run.after_cons, Run.after_cons, ih (h.upsert r).2.1, (h.upsert r).2.2]

end EncryptedFamilyMemoryStore

end FamilyMemory
end HexeAiNode
