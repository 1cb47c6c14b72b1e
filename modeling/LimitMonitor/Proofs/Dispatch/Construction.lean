import LimitMonitor.Proofs.Dispatch.Rebuild
import Mathlib.Data.Fintype.Card

/-!
# An index under construction

A rebuild starts from the empty index and makes one change after the other: it inserts a
message that has no link, or it appends a watchpoint to the chain of its message.
`changesOf` lists the changes for a table, and making all of them gives the index of the
table (`after_changesOf`).

Between any two changes the index holds what was entered so far, and its messages are those
of the entered watchpoints; only a message that the last change inserted waits for its first
watchpoint (`Stage`). A change is made only where there is room for it (`Change.Fits`). Both
hold after any number of changes: `sound_changesOf`.
-/

namespace LimitMonitor

namespace DispatchIndex

/-! ## Changes -/

/-- One change of an index under construction. -/
inductive Change where
  /-- Insert a message. -/
  | insert (id : MessageId)
  /-- Append a watchpoint to the chain of the message at a place. -/
  | append (place : Nat) (slot : WatchSlot)
deriving DecidableEq

/-- The index after one change. -/
def make (x : DispatchIndex) : Change → DispatchIndex
  | .insert id => x.insertMessage id
  | .append place slot => x.appendWatch place slot

/-- The index after some changes, made one after the other. -/
def after (x : DispatchIndex) (changes : List Change) : DispatchIndex := changes.foldl make x

/-- What finding or inserting a message changes. -/
def findOrInsertChanges (x : DispatchIndex) (id : MessageId) : List Change :=
  match x.find id with
  | some _ => []
  | none => [.insert id]

namespace Draft

/-- What giving a message its place changes. -/
def placeChanges (d : Draft) (id : MessageId) : List Change :=
  match d.previous with
  | some (previousId, _) => if previousId = id then [] else d.index.findOrInsertChanges id
  | none => d.index.findOrInsertChanges id

/-- What entering one slot changes. -/
def changes (d : Draft) (slot : WatchSlot) : Option MessageId → List Change
  | none => []
  | some id => d.placeChanges id ++ [.append (d.place id).2 slot]

/-- What entering rows one after the other changes. -/
def changesFrom (d : Draft) : List (WatchSlot × Option MessageId) → List Change
  | [] => []
  | row :: rest => d.changes row.1 row.2 ++ (d.enter row.1 row.2).changesFrom rest

end Draft

/-- The changes that build the index of a table. -/
def changesOf (ids : List (Option MessageId)) : List Change := Draft.empty.changesFrom (rowsOf ids)

variable {x : DispatchIndex} {d : Draft} {entered : List (WatchSlot × MessageId)}

theorem after_cons (x : DispatchIndex) (change : Change) (rest : List Change) :
    x.after (change :: rest) = (x.make change).after rest := rfl

theorem after_append (x : DispatchIndex) (first second : List Change) :
    x.after (first ++ second) = (x.after first).after second :=
  List.foldl_append

theorem after_findOrInsertChanges (x : DispatchIndex) (id : MessageId) :
    x.after (x.findOrInsertChanges id) = (x.findOrInsert id).1 := by
  unfold findOrInsertChanges findOrInsert
  cases x.find id with
  | none => rfl
  | some place => rfl

theorem Draft.after_placeChanges (d : Draft) (id : MessageId) :
    d.index.after (d.placeChanges id) = (d.place id).1 := by
  unfold placeChanges place
  cases d.previous with
  | none => exact after_findOrInsertChanges d.index id
  | some previous =>
    by_cases hid : previous.1 = id
    · simp only [hid, if_true]
      rfl
    · simp only [hid, if_false]
      exact after_findOrInsertChanges d.index id

/-- Entering a slot makes its changes and no others. -/
theorem Draft.after_changes (d : Draft) (slot : WatchSlot) (o : Option MessageId) :
    d.index.after (d.changes slot o) = (d.enter slot o).index := by
  cases o with
  | none => rfl
  | some id =>
    rw [changes, after_append, after_placeChanges]
    rfl

theorem Draft.after_changesFrom (d : Draft) (rows : List (WatchSlot × Option MessageId)) :
    d.index.after (d.changesFrom rows) =
      (rows.foldl (fun d row => d.enter row.1 row.2) d).index := by
  induction rows generalizing d with
  | nil => rfl
  | cons row rest ih =>
    rw [changesFrom, after_append, after_changes]
    exact ih (d.enter row.1 row.2)

/-- **The changes of a table build its index.** -/
theorem after_changesOf (ids : List (Option MessageId)) :
    empty.after (changesOf ids) = ofTable ids :=
  Draft.empty.after_changesFrom (rowsOf ids)

/-! ## Between two changes -/

/-- The message that the last of some changes inserted. -/
def inserted (changes : List Change) : Option MessageId :=
  match changes.getLast? with
  | some (.insert id) => some id
  | _ => none

theorem inserted_eq_some_iff {changes : List Change} {id : MessageId} :
    inserted changes = some id ↔ changes.getLast? = some (.insert id) := by
  unfold inserted
  split
  · next other hlast => simp [hlast]
  · next hlast => exact ⟨nofun, fun h => absurd h (hlast id)⟩

/-- Once a watchpoint is appended, no inserted message waits. -/
theorem inserted_append_cons (place : Nat) (slot : WatchSlot) (rest : List Change) :
    inserted (.append place slot :: rest) = inserted rest := by
  cases rest with
  | nil => rfl
  | cons change rest => rw [inserted, List.getLast?_cons_cons, inserted]

theorem inserted_insert_append_cons (id : MessageId) (place : Nat) (slot : WatchSlot)
    (rest : List Change) :
    inserted (.insert id :: .append place slot :: rest) = inserted rest := by
  rw [← inserted_append_cons place slot rest, inserted, List.getLast?_cons_cons, inserted]

/-- An index under construction holds the entered watchpoints. Its messages are theirs, in
the order of first reference, and then the one that waits for its first watchpoint, if there
is one. -/
structure Stage (x : DispatchIndex) (entered : List (WatchSlot × MessageId))
    (waiting : Option MessageId) : Prop where
  index : x.Indexes entered
  ids : x.messageIds = (entered.map Prod.snd).eraseDups ++ waiting.toList
  /-- There is a slot for each entered watchpoint and for the one that is waited for. -/
  room : entered.length + waiting.toList.length ≤ watchCapacity

/-- There is room for a change. A message that is inserted is new, and there are fewer
messages than slots; a watchpoint is appended to a message that has a link, and fewer are on
chains than there are slots. -/
def Change.Fits (x : DispatchIndex) : Change → Prop
  | .insert id => id ∉ x.messageIds ∧ x.messageCount < watchCapacity
  | .append place _ => place < x.messageCount ∧ x.watchCount < watchCapacity

/-- After the first `k` of some changes the index is at a stage at which only a message that
was just inserted waits, and there is room for the next change. -/
structure Sound (x : DispatchIndex) (changes : List Change) (k : Nat) : Prop where
  stage : ∃ entered, (x.after (changes.take k)).Stage entered (inserted (changes.take k))
  fits : ∀ change, changes[k]? = some change → change.Fits (x.after (changes.take k))

/-- There are no more slots in table order than the table has. -/
theorem length_le_of_ascending {slots : List WatchSlot} (h : slots.Pairwise (· < ·)) :
    slots.length ≤ watchCapacity := by
  have hnodup : slots.Nodup := h.imp Fin.ne_of_lt
  exact Nat.le_trans hnodup.length_le_card (Nat.le_of_eq (Fintype.card_fin watchCapacity))

/-- The slot of a watchpoint that is yet to be entered leaves room for it. -/
theorem Indexes.length_lt (h : x.Indexes entered) {slot : WatchSlot}
    (later : ∀ s ∈ entered.map Prod.fst, s < slot) : entered.length < watchCapacity := by
  have ascending : (entered.map Prod.fst ++ [slot]).Pairwise (· < ·) :=
    List.pairwise_append.mpr ⟨h.ascending, List.pairwise_singleton _ _, fun s hs t ht =>
      List.mem_singleton.mp ht ▸ later s hs⟩
  have hlength := length_le_of_ascending ascending
  rw [List.length_append, List.length_map, List.length_singleton] at hlength
  exact hlength

/-- There are at most as many messages as entered watchpoints and the one that is waited for. -/
theorem Stage.messageCount_le {waiting : Option MessageId} (h : x.Stage entered waiting) :
    x.messageCount ≤ entered.length + waiting.toList.length := by
  have hle := length_eraseDups_le (entered.map Prod.snd)
  rw [List.length_map] at hle
  rw [← length_messageIds, h.ids, List.length_append]
  exact Nat.add_le_add_right hle _

/-- No message of a draft waits. -/
theorem Draft.Indexes.stage (h : d.Indexes entered) : d.index.Stage entered none where
  index := h.index
  ids := by rw [h.ids, Option.toList_none, List.append_nil]
  room := by simpa using length_le_of_ascending h.index.ascending

/-- An inserted message waits for the watchpoint that brought it. -/
theorem Draft.Indexes.stage_insertMessage (h : d.Indexes entered) {id : MessageId}
    (fresh : id ∉ d.index.messageIds) {slot : WatchSlot}
    (later : ∀ s ∈ entered.map Prod.fst, s < slot) :
    (d.index.insertMessage id).Stage entered (some id) where
  index := h.index.insertMessage fresh
  ids := by rw [messageIds_insertMessage, h.ids, Option.toList_some]
  room := h.index.length_lt later

/-- A draft searches for a message unless it remembers the place that the search finds. -/
theorem Draft.Indexes.placeChanges_eq (h : d.Indexes entered) (id : MessageId) :
    d.placeChanges id = d.index.findOrInsertChanges id := by
  unfold Draft.placeChanges
  split
  · next previousId place hprevious =>
    split
    · next hid =>
      subst hid
      simp [findOrInsertChanges, h.find_of_previous hprevious]
    · rfl
  · rfl

/-! ## The run -/

/-- A change that appends a watchpoint goes before sound changes. -/
theorem Sound.append_cons {place : Nat} {slot : WatchSlot} {rest : List Change} {k : Nat}
    (h : (x.appendWatch place slot).Sound rest k) :
    x.Sound (.append place slot :: rest) (k + 1) where
  stage := by
    rw [List.take_succ_cons, after_cons, inserted_append_cons]
    exact h.stage
  fits := by
    rw [List.take_succ_cons, after_cons, List.getElem?_cons_succ]
    exact h.fits

/-- So do a change that inserts a message and the one that appends its watchpoint. -/
theorem Sound.insert_append_cons {id : MessageId} {place : Nat} {slot : WatchSlot}
    {rest : List Change} {k : Nat}
    (h : ((x.insertMessage id).appendWatch place slot).Sound rest k) :
    x.Sound (.insert id :: .append place slot :: rest) (k + 2) where
  stage := by
    rw [List.take_succ_cons, List.take_succ_cons, after_cons, after_cons,
      inserted_insert_append_cons]
    exact h.stage
  fits := by
    rw [List.take_succ_cons, List.take_succ_cons, after_cons, after_cons,
      List.getElem?_cons_succ, List.getElem?_cons_succ]
    exact h.fits

/-- The step: entering a used slot goes before sound changes. -/
theorem Draft.Indexes.sound_enter (h : d.Indexes entered) {slot : WatchSlot} (id : MessageId)
    (later : ∀ s ∈ entered.map Prod.fst, s < slot) {rest : List Change}
    (hrest : ∀ k, (d.enter slot (some id)).index.Sound rest k) (k : Nat) :
    d.index.Sound (d.changes slot (some id) ++ rest) k := by
  have room : entered.length < watchCapacity := h.index.length_lt later
  have counted : d.index.watchCount < watchCapacity := h.index.counted ▸ room
  simp only [Draft.enter, h.place_eq id] at hrest
  simp only [Draft.changes, h.place_eq id, h.placeChanges_eq id]
  cases hfind : d.index.find id with
  | some place =>
    -- the message has its place, and only the watchpoint is new
    have hplace : place < d.index.messageCount := h.index.lt_of_find hfind
    simp only [DispatchIndex.findOrInsert, findOrInsertChanges, hfind] at hrest ⊢
    cases k with
    | zero =>
      exact ⟨⟨entered, h.stage⟩, fun change hnext => Option.some.inj hnext ▸ ⟨hplace, counted⟩⟩
    | succ k => exact (hrest k).append_cons
  | none =>
    have fresh : id ∉ d.index.messageIds := h.index.find_eq_none_iff.mp hfind
    simp only [DispatchIndex.findOrInsert, findOrInsertChanges, hfind] at hrest ⊢
    rcases k with _ | _ | k
    · have hcount : d.index.messageCount < watchCapacity :=
        Nat.lt_of_le_of_lt h.stage.messageCount_le room
      exact ⟨⟨entered, h.stage⟩, fun change hnext => Option.some.inj hnext ▸ ⟨fresh, hcount⟩⟩
    · -- the message is inserted, and its watchpoint comes next
      have hplace : d.index.messages.size < (d.index.insertMessage id).messageCount := by
        simp [messageCount, DispatchIndex.insertMessage]
      exact ⟨⟨entered, h.stage_insertMessage fresh later⟩, fun change hnext =>
        Option.some.inj hnext ▸ ⟨hplace, counted⟩⟩
    · exact (hrest k).insert_append_cons

/-- **The run**: entering rows whose used slots come in table order after those entered
before. -/
theorem Draft.Indexes.sound_changesFrom (h : d.Indexes entered)
    {rows : List (WatchSlot × Option MessageId)}
    (ascending : ((entered ++ entriesOf rows).map Prod.fst).Pairwise (· < ·)) (k : Nat) :
    d.index.Sound (d.changesFrom rows) k := by
  induction rows generalizing d entered k with
  | nil =>
    rw [Draft.changesFrom]
    refine ⟨⟨entered, ?_⟩, by simp⟩
    rw [List.take_nil]
    exact h.stage
  | cons row rest ih =>
    obtain ⟨slot, o⟩ := row
    cases o with
    | none => exact ih h ascending k
    | some id =>
      rw [append_entriesOf_cons] at ascending
      have later : ∀ s ∈ entered.map Prod.fst, s < slot := later_of_ascending ascending
      exact h.sound_enter id later (ih (h.enter id later) ascending) k

/-- **Every moment of the construction is sound.** -/
theorem sound_changesOf (ids : List (Option MessageId)) (k : Nat) :
    empty.Sound (changesOf ids) k :=
  Draft.indexes_empty.sound_changesFrom (entriesOf_ascending ids) k

end DispatchIndex

end LimitMonitor
