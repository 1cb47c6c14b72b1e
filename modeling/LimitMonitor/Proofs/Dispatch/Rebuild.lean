import LimitMonitor.Dispatch.Rebuild
import LimitMonitor.Proofs.Dispatch.Invariant
import LimitMonitor.Watchpoint.Definition
import Mathlib.Data.List.Induction
import Mathlib.Data.List.ReduceOption

/-!
# The index of a table

`ofTable` enters the slots of a table one after the other. Every draft on the
way holds exactly what was entered so far (`Draft.Indexes.foldl`), so the index
of a table answers as a scan of the table does. The place that a draft remembers
is the one that a search finds (`Draft.Indexes.place_eq`); a run of watchpoints
on one message therefore gives the same index with the search as without it.

Main statement: `rebuild_indexes_table`.
-/

namespace LimitMonitor

namespace DispatchIndex

/-! ## The entries of a table -/

/-- The used slots among some rows of a table, each with its message. -/
def entriesOf (rows : List (WatchSlot × Option MessageId)) : List (WatchSlot × MessageId) :=
  rows.filterMap fun row => row.2.map (row.1, ·)

/-- The rows of a table: its slots up to the capacity, in table order. -/
def rowsOf (ids : List (Option MessageId)) : List (WatchSlot × Option MessageId) :=
  WatchSlot.all.zip ids

theorem mem_entriesOf_rowsOf {ids : List (Option MessageId)} {slot : WatchSlot} {id : MessageId} :
    (slot, id) ∈ entriesOf (rowsOf ids) ↔ ids[slot.val]? = some (some id) := by
  have hrow : (slot, id) ∈ entriesOf (rowsOf ids) ↔ (slot, some id) ∈ rowsOf ids := by
    simp [entriesOf]
  rw [hrow, List.mem_iff_getElem?]
  constructor
  · rintro ⟨i, hi⟩
    obtain ⟨hslot, hid⟩ := List.getElem?_zip_eq_some.mp hi
    obtain ⟨hlt, rfl⟩ := List.getElem?_eq_some_iff.mp hslot
    simpa [WatchSlot.all] using hid
  · intro hid
    refine ⟨slot.val, List.getElem?_zip_eq_some.mpr ⟨?_, hid⟩⟩
    simp [WatchSlot.all]

theorem fst_entriesOf_sublist (rows : List (WatchSlot × Option MessageId)) :
    List.Sublist ((entriesOf rows).map Prod.fst) (rows.map Prod.fst) := by
  induction rows with
  | nil => exact List.Sublist.refl []
  | cons row rest ih =>
    obtain ⟨slot, o⟩ := row
    cases o with
    | none => exact ih.cons slot
    | some id => exact ih.cons_cons slot

theorem entriesOf_ascending (ids : List (Option MessageId)) :
    ((entriesOf (rowsOf ids)).map Prod.fst).Pairwise (· < ·) := by
  have hall : WatchSlot.all.Pairwise (· < ·) := List.pairwise_lt_finRange watchCapacity
  refine hall.sublist ((fst_entriesOf_sublist _).trans ?_)
  rw [rowsOf, List.zip_eq_zip_take_min, List.map_fst_zip (by simp)]
  exact List.take_sublist _ _

/-- A used row moves from what is to be entered to what was entered. -/
theorem append_entriesOf_cons (entered : List (WatchSlot × MessageId)) (slot : WatchSlot)
    (id : MessageId) (rest : List (WatchSlot × Option MessageId)) :
    entered ++ entriesOf ((slot, some id) :: rest) = (entered ++ [(slot, id)]) ++ entriesOf rest := by
  simp [entriesOf]

/-- What is entered next in table order comes after what was entered. -/
theorem later_of_ascending {entered rest : List (WatchSlot × MessageId)} {slot : WatchSlot}
    {id : MessageId}
    (ascending : (((entered ++ [(slot, id)]) ++ rest).map Prod.fst).Pairwise (· < ·)) :
    ∀ s ∈ entered.map Prod.fst, s < slot := by
  rw [List.map_append, List.map_append, List.append_assoc] at ascending
  intro s hs
  exact (List.pairwise_append.mp ascending).2.2 s hs slot (by simp)

theorem snd_entriesOf (rows : List (WatchSlot × Option MessageId)) :
    (entriesOf rows).map Prod.snd = (rows.map Prod.snd).reduceOption := by
  induction rows with
  | nil => rfl
  | cons row rest ih =>
    obtain ⟨slot, o⟩ := row
    cases o with
    | none => simpa [entriesOf] using ih
    | some id => simpa [entriesOf] using ih

theorem snd_rowsOf (ids : List (Option MessageId)) :
    (rowsOf ids).map Prod.snd = ids.take watchCapacity := by
  rw [rowsOf, List.zip_eq_zip_take_min, List.map_snd_zip (by simp)]
  simp [WatchSlot.all]

/-! ## Drafts -/

variable {x : DispatchIndex} {d : Draft} {entered : List (WatchSlot × MessageId)}

/-- Finding or inserting a message gives the place that the message then has, and
adds it at the end of the messages if it is new. -/
theorem Indexes.findOrInsert (h : x.Indexes entered) (id : MessageId) :
    (x.findOrInsert id).1.Indexes entered ∧
      (x.findOrInsert id).1.messageIds[(x.findOrInsert id).2]? = some id ∧
      (x.findOrInsert id).1.messageIds =
        x.messageIds ++ if id ∈ x.messageIds then [] else [id] := by
  unfold DispatchIndex.findOrInsert
  cases hfind : x.find id with
  | some place =>
    have hplace := h.find_eq_some_iff.mp hfind
    have hmem : id ∈ x.messageIds := List.mem_of_getElem? hplace
    exact ⟨h, hplace, by simp [hmem]⟩
  | none =>
    have fresh := h.find_eq_none_iff.mp hfind
    refine ⟨h.insertMessage fresh, ?_, by simp [fresh]⟩
    rw [messageIds_insertMessage, List.getElem?_append_right (by simp [messageIds])]
    simp [messageIds]

/-- An element that follows a list is new to its distinct elements or among them. -/
theorem eraseDups_concat {α : Type} [DecidableEq α] (l : List α) (a : α) :
    (l ++ [a]).eraseDups = l.eraseDups ++ if a ∈ l then [] else [a] := by
  rw [List.eraseDups_append]
  by_cases h : a ∈ l <;> simp [List.removeAll, h, List.eraseDups_cons]

theorem length_eraseDups_le {α : Type} [DecidableEq α] (l : List α) :
    l.eraseDups.length ≤ l.length := by
  induction l using List.reverseRecOn with
  | nil => rfl
  | append_singleton l a ih =>
    rw [eraseDups_concat, List.length_append, List.length_append]
    split
    · exact Nat.add_le_add ih (Nat.zero_le 1)
    · exact Nat.add_le_add_right ih 1

/-- A draft holds the entered watchpoints, lists their messages in the order of
first reference, and remembers a place that is that of its message. -/
structure Draft.Indexes (d : Draft) (entered : List (WatchSlot × MessageId)) : Prop where
  index : d.index.Indexes entered
  ids : d.index.messageIds = (entered.map Prod.snd).eraseDups
  remembered : ∀ id place, d.previous = some (id, place) → d.index.messageIds[place]? = some id

theorem Draft.indexes_empty : Draft.empty.Indexes [] where
  index := DispatchIndex.indexes_empty
  ids := rfl
  remembered _ _ h := by simp [Draft.empty] at h

/-- A search would find the remembered place. -/
theorem Draft.Indexes.find_of_previous (h : d.Indexes entered) {id : MessageId} {place : Nat}
    (hprevious : d.previous = some (id, place)) : d.index.find id = some place :=
  h.index.find_eq_some_iff.mpr (h.remembered id place hprevious)

/-- **The remembered place is the one that a search finds.** -/
theorem Draft.Indexes.place_eq (h : d.Indexes entered) (id : MessageId) :
    d.place id = d.index.findOrInsert id := by
  unfold Draft.place
  split
  · next previousId place hprevious =>
    split
    · next hid =>
      subst hid
      simp [DispatchIndex.findOrInsert, h.find_of_previous hprevious]
    · rfl
  · rfl

/-- Entering a used slot. -/
theorem Draft.Indexes.enter (h : d.Indexes entered) {slot : WatchSlot} (id : MessageId)
    (later : ∀ s ∈ entered.map Prod.fst, s < slot) :
    (d.enter slot (some id)).Indexes (entered ++ [(slot, id)]) := by
  obtain ⟨hindex, hplace, hids⟩ := h.index.findOrInsert id
  simp only [Draft.enter, h.place_eq id]
  refine ⟨hindex.appendWatch hplace later, ?_, fun id' place hprevious => ?_⟩
  · rw [messageIds_appendWatch, hids, h.ids, List.map_append, List.map_singleton,
      eraseDups_concat]
    simp only [List.mem_eraseDups]
  · obtain ⟨rfl, rfl⟩ : id = id' ∧ (d.index.findOrInsert id).2 = place := by
      simpa using hprevious
    rw [messageIds_appendWatch]
    exact hplace

/-- Enter one slot of the table, always searching the bucket of its message. -/
def enterBySearch (x : DispatchIndex) (slot : WatchSlot) : Option MessageId → DispatchIndex
  | none => x
  | some id =>
    let placed := x.findOrInsert id
    placed.1.appendWatch placed.2 slot

/-- The index of a table, built without remembering the last message. -/
def ofTableBySearch (ids : List (Option MessageId)) : DispatchIndex :=
  (rowsOf ids).foldl (fun x row => x.enterBySearch row.1 row.2) empty

/-- **Entering rows** whose used slots come in table order after those entered
before: the draft holds all of them, and its index is the one that searching
for every message gives. -/
theorem Draft.Indexes.foldl (h : d.Indexes entered) {rows : List (WatchSlot × Option MessageId)}
    (ascending : ((entered ++ entriesOf rows).map Prod.fst).Pairwise (· < ·)) :
    (rows.foldl (fun d row => d.enter row.1 row.2) d).Indexes (entered ++ entriesOf rows) ∧
      (rows.foldl (fun d row => d.enter row.1 row.2) d).index =
        rows.foldl (fun x row => x.enterBySearch row.1 row.2) d.index := by
  induction rows generalizing d entered with
  | nil => exact ⟨by simpa [entriesOf] using h, rfl⟩
  | cons row rest ih =>
    obtain ⟨slot, o⟩ := row
    cases o with
    | none => exact ih h ascending
    | some id =>
      rw [append_entriesOf_cons] at ascending ⊢
      have later : ∀ s ∈ entered.map Prod.fst, s < slot := later_of_ascending ascending
      have searched : (d.enter slot (some id)).index = d.index.enterBySearch slot (some id) := by
        simp [Draft.enter, enterBySearch, h.place_eq id]
      rw [List.foldl_cons, List.foldl_cons, ← searched]
      exact ih (h.enter id later) ascending

/-! ## The index of a table -/

/-- What is entered for a table is read off it. -/
theorem indexes_ofTable (ids : List (Option MessageId)) :
    (ofTable ids).Indexes (entriesOf (rowsOf ids)) :=
  (Draft.indexes_empty.foldl (entriesOf_ascending ids)).1.index

theorem ofTable_eq_ofTableBySearch (ids : List (Option MessageId)) :
    ofTable ids = ofTableBySearch ids :=
  (Draft.indexes_empty.foldl (entriesOf_ascending ids)).2

/-- The messages of a table, in the order of first reference. -/
theorem messageIds_ofTable (ids : List (Option MessageId)) :
    (ofTable ids).messageIds = (ids.take watchCapacity).reduceOption.eraseDups := by
  rw [← snd_rowsOf, ← snd_entriesOf]
  exact (Draft.indexes_empty.foldl (entriesOf_ascending ids)).1.ids

theorem watchCount_ofTable (ids : List (Option MessageId)) :
    (ofTable ids).watchCount = (ids.take watchCapacity).countP Option.isSome := by
  have hlength := congrArg List.length (snd_entriesOf (rowsOf ids))
  rw [List.length_map, snd_rowsOf] at hlength
  rw [(indexes_ofTable ids).counted, hlength, List.reduceOption_length_eq,
    List.countP_eq_length_filter]

/-- **A look-up gives the slots of the table that read the message.** -/
theorem mem_lookup_ofTable {ids : List (Option MessageId)} {id : MessageId} {slot : WatchSlot} :
    slot ∈ (ofTable ids).lookup id ↔ ids[slot.val]? = some (some id) := by
  rw [(indexes_ofTable ids).lookup_eq, mem_watchersOf, mem_entriesOf_rowsOf]

/-- They come in table order. -/
theorem lookup_ofTable_ascending (ids : List (Option MessageId)) (id : MessageId) :
    ((ofTable ids).lookup id).Pairwise (· < ·) := by
  rw [(indexes_ofTable ids).lookup_eq]
  exact (entriesOf_ascending ids).sublist (watchersOf_sublist id)

/-- Two messages share a bucket, and neither sees the watchpoint of the other. -/
example : (ofTable [some ⟨0x0010⟩, some ⟨0x0110⟩, none, some ⟨0x0010⟩]).lookup ⟨0x0010⟩ = [0, 3] := by
  rfl

/-- **The index that a rebuild leaves is that of the new table**, whatever the index
was before and however the transport answers. A look-up gives the used slots
that read the message, each once and in table order, also where other messages
share the bucket. The messages are listed in the order of first reference, both
counts are those of the table, and remembering the last message changes nothing. -/
theorem rebuild_indexes_table (x : DispatchIndex) (table : List (Option Watchpoint))
    (t : Transport) :
    let ids := table.map fun w => w.map (·.messageId)
    let after := (x.rebuild ids t).1
    (∀ id, (after.lookup id).Pairwise (· < ·) ∧
      ∀ slot : WatchSlot, slot ∈ after.lookup id ↔
        ∃ w, table[slot.val]? = some (some w) ∧ w.messageId = id) ∧
    (∀ a b, bucket a = bucket b → a ≠ b → (after.lookup a).Disjoint (after.lookup b)) ∧
    after.messageIds =
      ((table.take watchCapacity).reduceOption.map (·.messageId)).eraseDups ∧
    after.messageCount = after.messageIds.length ∧
    after.watchCount = (table.take watchCapacity).countP Option.isSome ∧
    after = ofTableBySearch ids := by
  intro ids after
  have member (id : MessageId) (slot : WatchSlot) : slot ∈ after.lookup id ↔
      ∃ w, table[slot.val]? = some (some w) ∧ w.messageId = id := by
    refine mem_lookup_ofTable.trans ?_
    simp [ids, List.getElem?_map]
  refine ⟨fun id => ⟨lookup_ofTable_ascending ids id, member id⟩, fun a b _ hne slot ha hb => ?_,
    ?_, ?_, ?_, ofTable_eq_ofTableBySearch ids⟩
  · obtain ⟨w, hw, hwa⟩ := (member a slot).mp ha
    obtain ⟨w', hw', hwb⟩ := (member b slot).mp hb
    obtain rfl : w = w' := by simpa [hw] using hw'
    exact hne (hwa.symm.trans hwb)
  · refine (messageIds_ofTable ids).trans ?_
    rw [← List.map_take, List.reduceOption_map]
  · simp [messageCount, messageIds]
  · refine (watchCount_ofTable ids).trans ?_
    rw [← List.map_take, List.countP_map]
    congr 1
    funext w
    cases w <;> rfl

end DispatchIndex

end LimitMonitor
