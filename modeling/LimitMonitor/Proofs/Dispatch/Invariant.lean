import LimitMonitor.Proofs.Dispatch.Chain
import LimitMonitor.Proofs.Table.Slots
import Mathlib.Data.List.Nodup

/-!
# What a dispatch index holds

`x.Indexes entered` relates an index to the list of the watchpoints that were
entered, each with its message, in the order of entry. It fixes both levels of
chains: the chain of a bucket meets the messages of that bucket, the newest
first, and the chain of a message meets its watchpoints in the order of entry.

Both insertions keep it (`Indexes.insertMessage`, `Indexes.appendWatch`), and
under it the search finds exactly the messages that have a link
(`Indexes.find_eq_some_iff`) and a look-up gives exactly the watchpoints that
were entered for the message (`Indexes.lookup_eq`), whatever else shares the
bucket.
-/

namespace LimitMonitor

namespace DispatchIndex

/-- The places of the messages of a bucket, the newest first. -/
def placesIn (messages : Array MessageLink) (b : Fin bucketCount) : List Nat :=
  ((List.range messages.size).filter fun place =>
    messages[place]?.any fun link => bucket link.id = b).reverse

/-- The watchpoints that were entered for a message, in the order of entry. -/
def watchersOf (entered : List (WatchSlot × MessageId)) (id : MessageId) : List WatchSlot :=
  (entered.filter fun entry => entry.2 = id).map Prod.fst

/-- The index holds exactly the entered watchpoints, each on the chain of its
message. A message may have a link before a watchpoint is entered for it. -/
structure Indexes (x : DispatchIndex) (entered : List (WatchSlot × MessageId)) : Prop where
  /-- No message has two links. -/
  distinct : x.messageIds.Nodup
  /-- The message of every entered watchpoint has a link. -/
  known : ∀ entry ∈ entered, entry.2 ∈ x.messageIds
  /-- The chain of a bucket meets its messages, the newest first. -/
  bucketChain : ∀ b : Fin bucketCount,
    Chain (nextMessage x.messages) (x.buckets.get b) (placesIn x.messages b)
  /-- The chain of a message meets its watchpoints, in the order of entry. -/
  watchChain : ∀ (place : Nat) (link : MessageLink), x.messages[place]? = some link →
    Chain x.nextWatch.get link.first (watchersOf entered link.id)
  /-- A message remembers the last watchpoint of its chain. -/
  lastWatch : ∀ (place : Nat) (link : MessageLink), x.messages[place]? = some link →
    link.last = (watchersOf entered link.id).getLast?
  /-- A watchpoint that was not entered leads nowhere. -/
  idle : ∀ slot, slot ∉ entered.map Prod.fst → x.nextWatch.get slot = none
  /-- Watchpoints are entered in table order. -/
  ascending : (entered.map Prod.fst).Pairwise (· < ·)
  counted : x.watchCount = entered.length

variable {x : DispatchIndex} {entered : List (WatchSlot × MessageId)}

/-! ## Places and watchers -/

/-- A message has its place if the link there is its own. -/
theorem getElem?_messageIds {place : Nat} {id : MessageId} :
    x.messageIds[place]? = some id ↔ ∃ link, x.messages[place]? = some link ∧ link.id = id := by
  simp [messageIds]

/-- There is a link at every place below the count of the messages. -/
theorem lt_messageCount_iff {place : Nat} :
    place < x.messageCount ↔ ∃ link, x.messages[place]? = some link := by
  simp [messageCount, Array.getElem?_eq_some_iff]

theorem length_messageIds : x.messageIds.length = x.messageCount := by
  simp [messageIds, messageCount]

theorem mem_placesIn {messages : Array MessageLink} {b : Fin bucketCount} {place : Nat} :
    place ∈ placesIn messages b ↔ ∃ link, messages[place]? = some link ∧ bucket link.id = b := by
  simp only [placesIn, List.mem_reverse, List.mem_filter, List.mem_range, Option.any_eq_true,
    decide_eq_true_eq]
  constructor
  · exact fun h => h.2
  · rintro ⟨link, h, hb⟩
    exact ⟨(Array.getElem?_eq_some_iff.mp h).1, link, h, hb⟩

theorem lt_size_of_mem_placesIn {messages : Array MessageLink} {b : Fin bucketCount} {place : Nat}
    (h : place ∈ placesIn messages b) : place < messages.size := by
  obtain ⟨link, hlink, -⟩ := mem_placesIn.mp h
  exact (Array.getElem?_eq_some_iff.mp hlink).1

theorem length_placesIn_le (messages : Array MessageLink) (b : Fin bucketCount) :
    (placesIn messages b).length ≤ messages.size := by
  rw [placesIn, List.length_reverse]
  exact Nat.le_trans (List.length_filter_le _ _) (Nat.le_of_eq List.length_range)

theorem placesIn_descending (messages : Array MessageLink) (b : Fin bucketCount) :
    (placesIn messages b).Pairwise (· > ·) := by
  rw [placesIn, List.pairwise_reverse]
  exact List.pairwise_lt_range.filter _

/-- A new message is the newest of its bucket and of no other. -/
theorem placesIn_push (messages : Array MessageLink) (link : MessageLink) (b : Fin bucketCount) :
    placesIn (messages.push link) b =
      if bucket link.id = b then messages.size :: placesIn messages b else placesIn messages b := by
  have hold : (List.range messages.size).filter (fun place =>
        (messages.push link)[place]?.any fun link => bucket link.id = b) =
      (List.range messages.size).filter fun place =>
        messages[place]?.any fun link => bucket link.id = b := by
    refine List.filter_congr fun place hp => ?_
    rw [Array.getElem?_push_lt (List.mem_range.mp hp),
      Array.getElem?_eq_getElem (List.mem_range.mp hp)]
  rw [placesIn, Array.size_push, List.range_succ, List.filter_append, hold]
  by_cases hb : bucket link.id = b <;> simp [placesIn, hb]

theorem mem_watchersOf {id : MessageId} {slot : WatchSlot} :
    slot ∈ watchersOf entered id ↔ (slot, id) ∈ entered := by
  simp [watchersOf]

theorem watchersOf_sublist (id : MessageId) :
    List.Sublist (watchersOf entered id) (entered.map Prod.fst) :=
  List.filter_sublist.map Prod.fst

/-- Entering a watchpoint puts it at the end for its message and changes nothing
for another. -/
theorem watchersOf_concat (entry : WatchSlot × MessageId) (id : MessageId) :
    watchersOf (entered ++ [entry]) id =
      if entry.2 = id then watchersOf entered id ++ [entry.1] else watchersOf entered id := by
  by_cases h : entry.2 = id <;> simp [watchersOf, List.filter_append, h]

/-! ## Looking up -/

/-- A message has one place. -/
theorem Indexes.place_unique (h : x.Indexes entered) {p q : Nat} {id : MessageId}
    (hp : x.messageIds[p]? = some id) (hq : x.messageIds[q]? = some id) : p = q :=
  (List.getElem?_inj (List.getElem?_eq_some_iff.mp hp).1 h.distinct).mp (hp.trans hq.symm)

theorem isLinkOf_iff {id : MessageId} {place : Nat} :
    isLinkOf x.messages id place = true ↔ x.messageIds[place]? = some id := by
  simp [isLinkOf, getElem?_messageIds, Option.any_eq_true]

/-- The search goes through the messages of the bucket, the newest first. -/
theorem Indexes.find_eq_find? (h : x.Indexes entered) (id : MessageId) :
    x.find id = (placesIn x.messages (bucket id)).find? (isLinkOf x.messages id) :=
  findFrom_eq_find? id (h.bucketChain (bucket id)) (fun _ => lt_size_of_mem_placesIn)
    (length_placesIn_le _ _)

/-- **The search finds exactly the messages that have a link.** The chain of the
bucket meets the link of the message, and no other link carries its identifier. -/
theorem Indexes.find_eq_some_iff (h : x.Indexes entered) {id : MessageId} {place : Nat} :
    x.find id = some place ↔ x.messageIds[place]? = some id := by
  rw [h.find_eq_find? id]
  constructor
  · exact fun hfind => isLinkOf_iff.mp (List.find?_some hfind)
  · intro hplace
    obtain ⟨link, hlink, rfl⟩ := getElem?_messageIds.mp hplace
    -- the chain of the bucket meets this link, so the search finds one
    have met : ((placesIn x.messages (bucket link.id)).find?
        (isLinkOf x.messages link.id)).isSome :=
      List.find?_isSome.mpr ⟨place, mem_placesIn.mpr ⟨link, hlink, rfl⟩, isLinkOf_iff.mpr hplace⟩
    obtain ⟨found, hfound⟩ := Option.isSome_iff_exists.mp met
    rw [hfound, h.place_unique (isLinkOf_iff.mp (List.find?_some hfound)) hplace]

/-- There is a link at the place that the search finds. -/
theorem Indexes.lt_of_find (h : x.Indexes entered) {id : MessageId} {place : Nat}
    (hfind : x.find id = some place) : place < x.messageCount := by
  obtain ⟨link, hlink, -⟩ := getElem?_messageIds.mp (h.find_eq_some_iff.mp hfind)
  exact lt_messageCount_iff.mpr ⟨link, hlink⟩

/-- The search fails exactly for the messages that have no link. -/
theorem Indexes.find_eq_none_iff (h : x.Indexes entered) {id : MessageId} :
    x.find id = none ↔ id ∉ x.messageIds := by
  rw [List.mem_iff_getElem?, Option.eq_none_iff_forall_ne_some, not_exists]
  exact forall_congr' fun place => not_congr h.find_eq_some_iff

/-- A chain of watchpoints is no longer than the count of all of them. -/
theorem Indexes.length_watchersOf_le (h : x.Indexes entered) (id : MessageId) :
    (watchersOf entered id).length ≤ x.watchCount := by
  have hlength : (watchersOf entered id).length ≤ (entered.map Prod.fst).length :=
    (watchersOf_sublist id).length_le
  rwa [List.length_map, ← h.counted] at hlength

/-- **A look-up gives the watchpoints that were entered for the message**, in the
order of entry. -/
theorem Indexes.lookup_eq (h : x.Indexes entered) (id : MessageId) :
    x.lookup id = watchersOf entered id := by
  cases hfind : x.find id with
  | none =>
    have absent : watchersOf entered id = [] := by
      refine List.eq_nil_iff_forall_not_mem.mpr fun slot hslot => ?_
      exact h.find_eq_none_iff.mp hfind (h.known _ (mem_watchersOf.mp hslot))
    simp [lookup, hfind, absent]
  | some place =>
    obtain ⟨link, hlink, rfl⟩ := getElem?_messageIds.mp (h.find_eq_some_iff.mp hfind)
    simp only [lookup, hfind, hlink]
    exact watchersFrom_eq (h.watchChain place link hlink) (h.length_watchersOf_le link.id)

/-! ## Insertion -/

/-- The empty index holds nothing. -/
theorem indexes_empty : empty.Indexes [] where
  distinct := List.nodup_nil
  known := by simp
  bucketChain b := by simp [empty, placesIn, Chain]
  watchChain place link hlink := by simp [empty] at hlink
  lastWatch place link hlink := by simp [empty] at hlink
  idle slot _ := by simp [empty]
  ascending := List.Pairwise.nil
  counted := rfl

/-- The chain of a bucket, as far as it was, is kept when a message is added. -/
theorem chain_push {messages : Array MessageLink} (link : MessageLink) {b : Fin bucketCount}
    {head : Option Nat} (chain : Chain (nextMessage messages) head (placesIn messages b)) :
    Chain (nextMessage (messages.push link)) head (placesIn messages b) := by
  refine chain.congr fun place hp => ?_
  have inside : place < messages.size := lt_size_of_mem_placesIn hp
  simp [nextMessage, Array.getElem?_push, Nat.ne_of_lt inside]

@[simp] theorem messageIds_insertMessage (id : MessageId) :
    (x.insertMessage id).messageIds = x.messageIds ++ [id] := by
  simp [messageIds, insertMessage]

/-- **A new message goes to the head of the chain of its bucket.** It has no
watchpoint yet, since every entered one has a message that the index knows. -/
theorem Indexes.insertMessage (h : x.Indexes entered) {id : MessageId}
    (fresh : id ∉ x.messageIds) : (x.insertMessage id).Indexes entered := by
  have noWatchers : watchersOf entered id = [] :=
    List.eq_nil_iff_forall_not_mem.mpr fun slot hslot =>
      fresh (h.known _ (mem_watchersOf.mp hslot))
  have cases_link {place : Nat} {link : MessageLink}
      (hlink : (x.insertMessage id).messages[place]? = some link) :
      link = ⟨id, none, none, x.buckets.get (bucket id)⟩ ∨ x.messages[place]? = some link := by
    simp only [DispatchIndex.insertMessage, Array.getElem?_push] at hlink
    split at hlink
    · exact Or.inl (Option.some.inj hlink).symm
    · exact Or.inr hlink
  refine
    { distinct := ?_
      known := fun entry he => ?_
      bucketChain := fun b => ?_
      watchChain := fun place link hlink => ?_
      lastWatch := fun place link hlink => ?_
      idle := h.idle
      ascending := h.ascending
      counted := h.counted }
  · rw [messageIds_insertMessage]
    exact List.nodup_append.mpr ⟨h.distinct, by simp, fun a ha b hb => by
      rintro rfl
      exact fresh (List.mem_singleton.mp hb ▸ ha)⟩
  · rw [messageIds_insertMessage]
    exact List.mem_append_left _ (h.known entry he)
  · have places : placesIn (x.insertMessage id).messages b =
        if bucket id = b then x.messages.size :: placesIn x.messages b
        else placesIn x.messages b :=
      placesIn_push _ _ _
    rw [places]
    by_cases hb : bucket id = b
    · -- the bucket of the message now starts at its link, and goes on as before
      subst hb
      rw [if_pos rfl]
      refine ⟨by simp [DispatchIndex.insertMessage], ?_⟩
      have next : nextMessage (x.insertMessage id).messages x.messages.size =
          x.buckets.get (bucket id) := by
        simp [nextMessage, DispatchIndex.insertMessage]
      rw [next]
      exact chain_push _ (h.bucketChain (bucket id))
    · -- any other bucket keeps its head
      have head : (x.insertMessage id).buckets.get b = x.buckets.get b :=
        Slots.get_set_of_ne _ _ (Ne.symm hb)
      rw [if_neg hb, head]
      exact chain_push _ (h.bucketChain b)
  · rcases cases_link hlink with rfl | hold
    · rw [noWatchers]
      rfl
    · exact h.watchChain place link hold
  · rcases cases_link hlink with rfl | hold
    · rw [noWatchers]
      rfl
    · exact h.lastWatch place link hold

/-! Appending a watchpoint rewrites the link at one place. The link keeps its
identifier and its successor, and with them everything on the level of buckets. -/

section Relink

variable {messages : Array MessageLink} {place : Nat} {link link' : MessageLink}

theorem getElem?_relink (hlink : messages[place]? = some link) (q : Nat) :
    (messages.setIfInBounds place link')[q]? = if place = q then some link' else messages[q]? := by
  have inside : place < messages.size := (Array.getElem?_eq_some_iff.mp hlink).1
  by_cases hq : place = q
  · subst hq
    simp [inside]
  · simp [hq]

theorem ids_relink (hlink : messages[place]? = some link) (sameId : link'.id = link.id) :
    (messages.setIfInBounds place link').toList.map (·.id) = messages.toList.map (·.id) := by
  refine List.ext_getElem? fun q => ?_
  simp only [List.getElem?_map, Array.getElem?_toList, getElem?_relink hlink]
  by_cases hq : place = q
  · subst hq
    simp [hlink, sameId]
  · simp [hq]

theorem placesIn_relink (hlink : messages[place]? = some link) (sameId : link'.id = link.id)
    (b : Fin bucketCount) :
    placesIn (messages.setIfInBounds place link') b = placesIn messages b := by
  rw [placesIn, placesIn, Array.size_setIfInBounds]
  congr 1
  refine List.filter_congr fun q _ => ?_
  rw [getElem?_relink hlink]
  by_cases hq : place = q
  · subst hq
    simp [hlink, sameId]
  · simp [hq]

theorem nextMessage_relink (hlink : messages[place]? = some link)
    (sameNext : link'.next = link.next) :
    nextMessage (messages.setIfInBounds place link') = nextMessage messages := by
  funext q
  rw [nextMessage, nextMessage, getElem?_relink hlink]
  by_cases hq : place = q
  · subst hq
    simp [hlink, sameNext]
  · simp [hq]

end Relink

/-- A watchpoint was entered for one message only. -/
theorem Indexes.watcher_unique (h : x.Indexes entered) {slot : WatchSlot} {a b : MessageId}
    (ha : slot ∈ watchersOf entered a) (hb : slot ∈ watchersOf entered b) : a = b := by
  have hnodup : (entered.map Prod.fst).Nodup := h.ascending.imp Fin.ne_of_lt
  have heq := List.inj_on_of_nodup_map hnodup (mem_watchersOf.mp ha) (mem_watchersOf.mp hb) rfl
  exact congrArg Prod.snd heq

/-- The step on the level of watchpoints: the link at `place` gets a chain that is
longer by one, and no link outside the old chain is touched. -/
theorem Indexes.extend (h : x.Indexes entered) {place : Nat} {link link' : MessageLink}
    {slot : WatchSlot} {nextWatch' : Vector (Option WatchSlot) watchCapacity}
    (hlink : x.messages[place]? = some link) (later : ∀ s ∈ entered.map Prod.fst, s < slot)
    (sameId : link'.id = link.id) (sameNext : link'.next = link.next)
    (newLast : link'.last = some slot)
    (newChain : Chain nextWatch'.get link'.first (watchersOf entered link.id ++ [slot]))
    (agree : ∀ s, s ∉ watchersOf entered link.id → nextWatch'.get s = x.nextWatch.get s) :
    Indexes { x with
        messages := x.messages.setIfInBounds place link'
        nextWatch := nextWatch'
        watchCount := x.watchCount + 1 }
      (entered ++ [(slot, link.id)]) where
  distinct := by
    rw [messageIds, ids_relink hlink sameId]
    exact h.distinct
  known entry he := by
    rw [messageIds, ids_relink hlink sameId]
    rcases List.mem_append.mp he with hold | hnew
    · exact h.known entry hold
    · rw [List.mem_singleton.mp hnew]
      exact List.mem_of_getElem? (getElem?_messageIds.mpr ⟨link, hlink, rfl⟩)
  bucketChain b := by
    simp only [nextMessage_relink hlink sameNext, placesIn_relink hlink sameId]
    exact h.bucketChain b
  watchChain q other hother := by
    simp only [getElem?_relink hlink] at hother
    split at hother
    · obtain rfl := Option.some.inj hother
      rw [watchersOf_concat, if_pos sameId.symm, sameId]
      exact newChain
    · next hq =>
      have hne : link.id ≠ other.id := fun e => hq (h.place_unique
        (getElem?_messageIds.mpr ⟨link, hlink, e⟩)
        (getElem?_messageIds.mpr ⟨other, hother, rfl⟩))
      rw [watchersOf_concat, if_neg hne]
      -- the other chain meets no watchpoint of this message
      exact (h.watchChain q other hother).congr fun s hs =>
        agree s fun hmem => hne (h.watcher_unique hmem hs)
  lastWatch q other hother := by
    simp only [getElem?_relink hlink] at hother
    split at hother
    · obtain rfl := Option.some.inj hother
      rw [watchersOf_concat, if_pos sameId.symm, List.getLast?_concat]
      exact newLast
    · next hq =>
      have hne : link.id ≠ other.id := fun e => hq (h.place_unique
        (getElem?_messageIds.mpr ⟨link, hlink, e⟩)
        (getElem?_messageIds.mpr ⟨other, hother, rfl⟩))
      rw [watchersOf_concat, if_neg hne]
      exact h.lastWatch q other hother
  idle s hs := by
    simp only [List.map_append, List.mem_append, not_or] at hs
    rw [← h.idle s hs.1]
    exact agree s fun hmem => hs.1 ((watchersOf_sublist link.id).subset hmem)
  ascending := by
    rw [List.map_append, List.pairwise_append]
    refine ⟨h.ascending, List.pairwise_singleton _ _, fun a ha b hb => ?_⟩
    rw [List.mem_singleton.mp hb]
    exact later a ha
  counted := by simp [h.counted]

/-- **A new watchpoint goes to the end of the chain of its message.** -/
theorem Indexes.appendWatch (h : x.Indexes entered) {place : Nat} {id : MessageId}
    {slot : WatchSlot} (hplace : x.messageIds[place]? = some id)
    (later : ∀ s ∈ entered.map Prod.fst, s < slot) :
    (x.appendWatch place slot).Indexes (entered ++ [(slot, id)]) := by
  obtain ⟨link, hlink, rfl⟩ := getElem?_messageIds.mp hplace
  have fresh : slot ∉ entered.map Prod.fst := fun hmem => Fin.lt_irrefl slot (later slot hmem)
  have ends : x.nextWatch.get slot = none := h.idle slot fresh
  have hlast := h.lastWatch place link hlink
  cases hcase : link.last with
  | none =>
    -- the first watchpoint of the message is its whole chain
    have noWatchers : watchersOf entered link.id = [] := by
      rwa [hcase, eq_comm, List.getLast?_eq_none_iff] at hlast
    simp only [DispatchIndex.appendWatch, hlink, hcase]
    refine h.extend hlink later rfl rfl rfl ?_ fun _ _ => rfl
    rw [noWatchers]
    exact ⟨rfl, ends⟩
  | some last =>
    -- the last watchpoint so far is led to the new one
    obtain ⟨before, hbefore⟩ : ∃ before, watchersOf entered link.id = before ++ [last] := by
      rw [hcase, eq_comm] at hlast
      exact List.getLast?_eq_some_iff.mp hlast
    have hmem : last ∈ watchersOf entered link.id := by simp [hbefore]
    have hentered : last ∈ entered.map Prod.fst := (watchersOf_sublist link.id).subset hmem
    have hne {s : WatchSlot} (hs : s ≠ last) :
        (x.nextWatch.set last (some slot) last.isLt).get s = x.nextWatch.get s :=
      Slots.get_set_of_ne _ _ hs
    simp only [DispatchIndex.appendWatch, hlink, hcase]
    refine h.extend hlink later rfl rfl rfl ?_ fun s hs => hne fun e => hs (e ▸ hmem)
    have chain := h.watchChain place link hlink
    rw [hbefore] at chain ⊢
    rw [List.append_assoc]
    refine chain.concat (by simp) ((hne fun e => ?_).trans ends) fun s hs => hne ?_
    · exact fresh (e ▸ hentered)
    · have sorted := h.ascending.sublist (watchersOf_sublist link.id)
      rw [hbefore, List.pairwise_append] at sorted
      exact Fin.ne_of_lt (sorted.2.2 s hs last (List.mem_singleton_self last))

@[simp] theorem messageIds_appendWatch (place : Nat) (slot : WatchSlot) :
    (x.appendWatch place slot).messageIds = x.messageIds := by
  unfold DispatchIndex.appendWatch
  split
  · rfl
  · next link hlink =>
    split
    · exact ids_relink hlink rfl
    · exact ids_relink hlink rfl

end DispatchIndex

end LimitMonitor
