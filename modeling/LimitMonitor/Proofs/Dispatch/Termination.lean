import LimitMonitor.Proofs.Dispatch.Construction

/-!
# Walks along the chains of an index

The search for a message and the walk along its watchpoints follow links until one is
absent. Their definitions carry a bound; this module shows that the bound is never what ends
them. A search without a bound (`Search`), which can only go on from a place that has a link,
ends after at most as many links as there are messages, and a chain of watchpoints is no
longer than the count of them (`WalksEnd`).

What carries this is the order on the chains (`InOrder`): a bucket leads to ever older
messages of the bucket and meets all of them, a message to ever later watchpoints, and no two
chains of a level share a link. It holds of every index that rebuilds leave, and between any
two changes of a rebuild.

Main statement: `chains_stay_in_order`.
-/

namespace LimitMonitor

namespace DispatchIndex

/-! ## The search without a bound -/

/-- The search for a message from a head on, link by link until it ends. It goes on only
from a place that has a link. The number counts the links that it looks at, and the answer is
the place of the message. -/
inductive Search (messages : Array MessageLink) (id : MessageId) :
    Option Nat → Nat → Option Nat → Prop where
  /-- The chain is at its end. -/
  | ended : Search messages id none 0 none
  /-- The link is that of the message. -/
  | found {place : Nat} {link : MessageLink} (here : messages[place]? = some link)
      (same : link.id = id) : Search messages id (some place) 1 (some place)
  /-- The link is that of another message. -/
  | further {place steps : Nat} {link : MessageLink} {answer : Option Nat}
      (here : messages[place]? = some link) (different : link.id ≠ id)
      (rest : Search messages id link.next steps answer) :
      Search messages id (some place) (steps + 1) answer

/-- A search along a chain inside the messages looks at no link twice. -/
theorem search_of_chain {messages : Array MessageLink} (id : MessageId) {links : List Nat}
    {head : Option Nat} (h : Chain (nextMessage messages) head links)
    (inside : ∀ place ∈ links, place < messages.size) :
    ∃ steps ≤ links.length, Search messages id head steps (links.find? (isLinkOf messages id)) := by
  induction links generalizing head with
  | nil =>
    obtain rfl : head = none := h
    exact ⟨0, Nat.le_refl 0, .ended⟩
  | cons place rest ih =>
    obtain ⟨rfl, tail⟩ := h
    have hplace : place < messages.size := inside place List.mem_cons_self
    have hlink : messages[place]? = some messages[place] := Array.getElem?_eq_getElem hplace
    by_cases hid : messages[place].id = id
    · have answer : (place :: rest).find? (isLinkOf messages id) = some place := by
        simp [isLinkOf, hlink, hid]
      exact ⟨1, by simp, answer ▸ .found hlink hid⟩
    · have answer : (place :: rest).find? (isLinkOf messages id) =
          rest.find? (isLinkOf messages id) := by
        simp [isLinkOf, hlink, hid]
      obtain ⟨steps, hsteps, hrest⟩ :=
        ih (by simpa [nextMessage, hlink] using tail) fun q hq =>
          inside q (List.mem_cons_of_mem place hq)
      exact ⟨steps + 1, Nat.succ_le_succ hsteps, answer ▸ .further hlink hid hrest⟩

/-! ## Order on the chains -/

variable {x : DispatchIndex} {entered : List (WatchSlot × MessageId)} {waiting : Option MessageId}

/-- The chain of a bucket meets the messages at these places, in order. -/
def BucketChain (x : DispatchIndex) (b : Fin bucketCount) (places : List Nat) : Prop :=
  Chain (nextMessage x.messages) (x.buckets.get b) places

/-- The chain of the message at a place meets these watchpoints, in order. -/
def WatchChain (x : DispatchIndex) (place : Nat) (slots : List WatchSlot) : Prop :=
  ∃ link, x.messages[place]? = some link ∧ Chain x.nextWatch.get link.first slots

/-- Both levels of chains are in order, and no two chains of a level share a link. -/
structure InOrder (x : DispatchIndex) : Prop where
  /-- A bucket leads from newer to older messages, all of them messages of the bucket. -/
  buckets : ∀ b, ∃ places, x.BucketChain b places ∧ places.Pairwise (· > ·) ∧
    ∀ place ∈ places, place < x.messageCount ∧
      ∃ link, x.messages[place]? = some link ∧ bucket link.id = b
  /-- Every message is on the chain of one bucket. -/
  oneBucket : ∀ place < x.messageCount, ∃! b, ∃ places, x.BucketChain b places ∧ place ∈ places
  /-- A message leads to no watchpoint, or to watchpoints in table order. The last of them is
  the one that the message remembers, and it leads nowhere. -/
  watchers : ∀ place link, x.messages[place]? = some link →
    link.first = none ∧ link.last = none ∨
      ∃ slots last, x.WatchChain place slots ∧ slots.Pairwise (· < ·) ∧
        slots.getLast? = some last ∧ link.last = some last ∧ x.nextWatch.get last = none
  /-- A watchpoint is on the chain of one message. -/
  oneMessage : ∀ p q slots slots' slot, x.WatchChain p slots → x.WatchChain q slots' →
    slot ∈ slots → slot ∈ slots' → p = q
  messages_le : x.messageCount ≤ watchCapacity
  watches_le : x.watchCount ≤ watchCapacity

/-- Every walk along a chain ends, and every place that one comes to has a link. -/
structure WalksEnd (x : DispatchIndex) : Prop where
  /-- A search looks at no more links than there are messages. -/
  search : ∀ id, ∃ steps ≤ x.messageCount,
    Search x.messages id (x.buckets.get (bucket id)) steps (x.find id)
  /-- The place that it finds has a link, and a look-up walks the whole chain from there. -/
  lookup : ∀ id place, x.find id = some place →
    place < x.messageCount ∧ x.WatchChain place (x.lookup id)
  /-- A walk along watchpoints meets no more than there are on chains. -/
  watches : ∀ place < x.messageCount, ∃ slots, x.WatchChain place slots ∧
    slots.length ≤ x.watchCount

/-- The chain of a bucket, read off the messages. -/
theorem Indexes.bucketChain_iff (h : x.Indexes entered) {b : Fin bucketCount} {places : List Nat} :
    x.BucketChain b places ↔ places = placesIn x.messages b :=
  ⟨fun hchain => Chain.unique hchain (h.bucketChain b), fun hplaces => hplaces ▸ h.bucketChain b⟩

/-- The chain of a message, read off what was entered. -/
theorem Indexes.watchChain_iff (h : x.Indexes entered) {place : Nat} {slots : List WatchSlot} :
    x.WatchChain place slots ↔
      ∃ id, x.messageIds[place]? = some id ∧ slots = watchersOf entered id := by
  constructor
  · rintro ⟨link, hlink, hchain⟩
    exact ⟨link.id, getElem?_messageIds.mpr ⟨link, hlink, rfl⟩,
      Chain.unique hchain (h.watchChain place link hlink)⟩
  · rintro ⟨id, hid, rfl⟩
    obtain ⟨link, hlink, rfl⟩ := getElem?_messageIds.mp hid
    exact ⟨link, hlink, h.watchChain place link hlink⟩

/-- **An index that holds what was entered is in order.** -/
theorem Stage.inOrder (h : x.Stage entered waiting) : x.InOrder where
  buckets b := by
    refine ⟨placesIn x.messages b, h.index.bucketChain b, placesIn_descending x.messages b,
      fun place hplace => ?_⟩
    obtain ⟨link, hlink, hbucket⟩ := mem_placesIn.mp hplace
    exact ⟨lt_messageCount_iff.mpr ⟨link, hlink⟩, link, hlink, hbucket⟩
  oneBucket place hplace := by
    obtain ⟨link, hlink⟩ := lt_messageCount_iff.mp hplace
    refine ⟨bucket link.id, ⟨_, h.index.bucketChain _, mem_placesIn.mpr ⟨link, hlink, rfl⟩⟩, ?_⟩
    rintro b ⟨places, hchain, hmem⟩
    rw [h.index.bucketChain_iff.mp hchain] at hmem
    obtain ⟨link', hlink', rfl⟩ := mem_placesIn.mp hmem
    rw [Option.some.inj (hlink.symm.trans hlink')]
  watchers place link hlink := by
    have hchain := h.index.watchChain place link hlink
    have hlast := h.index.lastWatch place link hlink
    cases hcase : link.last with
    | none =>
      rw [hcase, eq_comm, List.getLast?_eq_none_iff] at hlast
      exact Or.inl ⟨hchain.head_eq_none_iff.mpr hlast, rfl⟩
    | some last =>
      rw [hcase, eq_comm] at hlast
      exact Or.inr ⟨watchersOf entered link.id, last, ⟨link, hlink, hchain⟩,
        h.index.ascending.sublist (watchersOf_sublist link.id), hlast, rfl,
        hchain.next_getLast hlast⟩
  oneMessage p q slots slots' slot hp hq hslot hslot' := by
    obtain ⟨a, ha, rfl⟩ := h.index.watchChain_iff.mp hp
    obtain ⟨b, hb, rfl⟩ := h.index.watchChain_iff.mp hq
    obtain rfl : a = b := h.index.watcher_unique hslot hslot'
    exact h.index.place_unique ha hb
  messages_le := Nat.le_trans h.messageCount_le h.room
  watches_le := h.index.counted ▸ Nat.le_trans (Nat.le_add_right _ _) h.room

/-- **Walks end** in an index that holds what was entered. -/
theorem Indexes.walksEnd (h : x.Indexes entered) : x.WalksEnd where
  search id := by
    obtain ⟨steps, hsteps, hsearch⟩ :=
      search_of_chain id (h.bucketChain (bucket id)) fun _ => lt_size_of_mem_placesIn
    exact ⟨steps, Nat.le_trans hsteps (length_placesIn_le _ _), h.find_eq_find? id ▸ hsearch⟩
  lookup id place hfind :=
    ⟨h.lt_of_find hfind,
      h.watchChain_iff.mpr ⟨id, h.find_eq_some_iff.mp hfind, h.lookup_eq id⟩⟩
  watches place hplace := by
    obtain ⟨link, hlink⟩ := lt_messageCount_iff.mp hplace
    exact ⟨watchersOf entered link.id, ⟨link, hlink, h.watchChain place link hlink⟩,
      h.length_watchersOf_le link.id⟩

/-- The message that waits for its first watchpoint is the one without a chain. -/
theorem Stage.first_eq_none_iff (h : x.Stage entered waiting) {link : MessageLink}
    (hlink : link ∈ x.messages) : link.first = none ↔ waiting = some link.id := by
  obtain ⟨place, hplace⟩ := Array.mem_iff_getElem?.mp hlink
  have hid : link.id ∈ x.messageIds := List.mem_map.mpr ⟨link, hlink.val, rfl⟩
  have distinct := h.index.distinct
  rw [h.ids] at hid distinct
  have entered_iff : watchersOf entered link.id = [] ↔ link.id ∉ entered.map Prod.snd := by
    simp [watchersOf, List.eq_nil_iff_forall_not_mem]
  rw [(h.index.watchChain place link hplace).head_eq_none_iff, entered_iff]
  constructor
  · intro hnone
    simpa [hnone] using hid
  · rintro rfl hmem
    -- a message that waits has no watchpoint, since no message is listed twice
    have hdisjoint := (List.nodup_append.mp distinct).2.2
    exact hdisjoint link.id (List.mem_eraseDups.mpr hmem) link.id (by simp) rfl

/-- The index after rebuilds of a new one, each for a table and with a transport. -/
def rebuilt (rebuilds : List (List (Option MessageId) × Transport)) : DispatchIndex :=
  rebuilds.foldl (fun x r => (x.rebuild r.1 r.2).1) empty

/-- What rebuilds leave is the end of a construction. -/
theorem stage_rebuilt (rebuilds : List (List (Option MessageId) × Transport)) :
    ∃ entered, (rebuilt rebuilds).Stage entered none := by
  cases rebuilds using List.reverseRecOn with
  | nil => exact ⟨[], Draft.indexes_empty.stage⟩
  | append_singleton before r =>
    obtain ⟨h, -⟩ := Draft.indexes_empty.foldl (entriesOf_ascending r.1)
    refine ⟨entriesOf (rowsOf r.1), ?_⟩
    rw [rebuilt, List.foldl_append]
    exact h.stage

/-- **The chains of an index are in order at every moment, and every walk along them ends.**
This holds after any rebuilds, and then every message has a watchpoint. It holds in the
middle of a rebuild too, after any number of the changes that it makes from the empty index
on: a message is without a watchpoint exactly while its insertion is the last change, and
there is room in the index for the change that comes next. -/
theorem chains_stay_in_order (rebuilds : List (List (Option MessageId) × Transport))
    (ids : List (Option MessageId)) (t : Transport) (k : Nat) :
    let x := rebuilt rebuilds
    let made := (changesOf ids).take k
    let y := empty.after made
    (x.InOrder ∧ x.WalksEnd ∧ ∀ link ∈ x.messages, link.first ≠ none) ∧
    (x.rebuild ids t).1 = empty.after (changesOf ids) ∧
    (y.InOrder ∧ y.WalksEnd ∧ ∀ link ∈ y.messages,
      link.first = none ↔ made.getLast? = some (.insert link.id)) ∧
    ∀ change, (changesOf ids)[k]? = some change → change.Fits y := by
  intro x made y
  obtain ⟨entered, hx⟩ := stage_rebuilt rebuilds
  obtain ⟨⟨entered', hy⟩, fits⟩ := sound_changesOf ids k
  refine ⟨⟨hx.inOrder, hx.index.walksEnd, fun link hlink hnone => ?_⟩,
    (after_changesOf ids).symm, ⟨hy.inOrder, hy.index.walksEnd, fun link hlink => ?_⟩, fits⟩
  · exact absurd ((hx.first_eq_none_iff hlink).mp hnone) nofun
  · rw [hy.first_eq_none_iff hlink, inserted_eq_some_iff]

/-- Two messages share a bucket. The second was just inserted and has no watchpoint, and the
next change appends the one that brought it. -/
theorem chains_stay_in_order_two :
    let ids : List (Option MessageId) := [some ⟨0x0010⟩, some ⟨0x0110⟩, none, some ⟨0x0010⟩]
    let y := empty.after ((changesOf ids).take 3)
    ((changesOf ids).take 3).getLast? = some (.insert ⟨0x0110⟩) ∧
      y.messages[1]? = some ⟨⟨0x0110⟩, none, none, some 0⟩ ∧
      (changesOf ids)[3]? = some (.append 1 1) ∧ (Change.append 1 1).Fits y := by
  intro ids y
  have hnext : (changesOf ids)[3]? = some (.append 1 1) := by rfl
  obtain ⟨-, -, -, fits⟩ := chains_stay_in_order [] ids .willing 3
  exact ⟨by rfl, by rfl, hnext, fits _ hnext⟩

end DispatchIndex

end LimitMonitor
