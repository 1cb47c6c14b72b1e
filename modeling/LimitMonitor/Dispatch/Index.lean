import LimitMonitor.Capacity
import LimitMonitor.Message

/-!
# The dispatch index

The index leads from a message identifier to the watchpoints that read it. A
bucket heads a chain of message links, the newest first; a link heads a chain
of watchpoints, in table order, and remembers its last one so that the next
joins in one step. Chains are links between slots, and an absent link ends one.

A walk along a chain is bounded by the number of links there can be on it:
chains that the index builds never reach the bound before their end.
-/

namespace LimitMonitor

/-- A message on the chain of its bucket, with the chain of its watchpoints. -/
structure MessageLink where
  id : MessageId
  /-- The first watchpoint that reads the message. -/
  first : Option WatchSlot
  /-- The last watchpoint that reads the message. -/
  last : Option WatchSlot
  /-- The next older message of the same bucket. -/
  next : Option Nat
deriving DecidableEq

/-- The index from message identifiers to watchpoints. -/
structure DispatchIndex where
  /-- The newest message of each bucket. -/
  buckets : Vector (Option Nat) bucketCount
  /-- One link for each message, in the order of first reference. -/
  messages : Array MessageLink
  /-- For each watchpoint, the next one that reads the same message. -/
  nextWatch : Vector (Option WatchSlot) watchCapacity
  /-- How many watchpoints are on chains. -/
  watchCount : Nat
deriving DecidableEq

namespace DispatchIndex

/-- The index of an empty table. -/
def empty : DispatchIndex where
  buckets := Vector.replicate bucketCount none
  messages := #[]
  nextWatch := Vector.replicate watchCapacity none
  watchCount := 0

/-- The bucket of a message. -/
def bucket (id : MessageId) : Fin bucketCount :=
  ⟨(id.value &&& bucketMask).toNat, by
    have h : (id.value &&& bucketMask).toNat ≤ 255 := by
      rw [UInt16.toNat_and]
      exact Nat.and_le_right
    exact Nat.lt_succ_of_le h⟩

/-- How many messages the index has. -/
def messageCount (x : DispatchIndex) : Nat := x.messages.size

/-- The messages of the index, in the order of first reference. -/
def messageIds (x : DispatchIndex) : List MessageId := x.messages.toList.map (·.id)

/-! ## Following chains -/

/-- Walk along a chain of messages, at most `fuel` links far, to the link of `id`. -/
def findFrom (messages : Array MessageLink) (id : MessageId) : Nat → Option Nat → Option Nat
  | 0, _ => none
  | _ + 1, none => none
  | fuel + 1, some place =>
    match messages[place]? with
    | none => none
    | some link => if link.id = id then some place else findFrom messages id fuel link.next

/-- The place of a message among the links. -/
def find (x : DispatchIndex) (id : MessageId) : Option Nat :=
  findFrom x.messages id x.messages.size (x.buckets.get (bucket id))

/-- Walk along a chain of watchpoints, at most `fuel` links far. -/
def watchersFrom (next : Vector (Option WatchSlot) watchCapacity) :
    Nat → Option WatchSlot → List WatchSlot
  | 0, _ => []
  | _ + 1, none => []
  | fuel + 1, some slot => slot :: watchersFrom next fuel (next.get slot)

/-- The watchpoints that read a message, in table order. -/
def lookup (x : DispatchIndex) (id : MessageId) : List WatchSlot :=
  match x.find id with
  | none => []
  | some place =>
    match x.messages[place]? with
    | none => []
    | some link => watchersFrom x.nextWatch x.watchCount link.first

/-! ## Building chains -/

/-- Put a new message at the head of the chain of its bucket. -/
def insertMessage (x : DispatchIndex) (id : MessageId) : DispatchIndex :=
  { x with
    buckets := x.buckets.set (bucket id) (some x.messages.size) (bucket id).isLt
    messages := x.messages.push ⟨id, none, none, x.buckets.get (bucket id)⟩ }

/-- Put a watchpoint at the tail of the chain of the message at `place`. -/
def appendWatch (x : DispatchIndex) (place : Nat) (slot : WatchSlot) : DispatchIndex :=
  match x.messages[place]? with
  | none => x
  | some link =>
    match link.last with
    | none =>
      { x with
        messages := x.messages.setIfInBounds place { link with first := some slot, last := some slot }
        watchCount := x.watchCount + 1 }
    | some last =>
      { x with
        messages := x.messages.setIfInBounds place { link with last := some slot }
        nextWatch := x.nextWatch.set last (some slot) last.isLt
        watchCount := x.watchCount + 1 }

/-- The place of a message, which is inserted if the index does not have it. -/
def findOrInsert (x : DispatchIndex) (id : MessageId) : DispatchIndex × Nat :=
  match x.find id with
  | some place => (x, place)
  | none => (x.insertMessage id, x.messages.size)

/-- An index under construction, with the message of the last watchpoint and its
place. A run of watchpoints on one message needs no search. -/
structure Draft where
  index : DispatchIndex
  previous : Option (MessageId × Nat)
deriving DecidableEq

namespace Draft

/-- The draft before the first watchpoint. -/
def empty : Draft := ⟨DispatchIndex.empty, none⟩

/-- The place of a message, found without a search if it was the last one. -/
def place (d : Draft) (id : MessageId) : DispatchIndex × Nat :=
  match d.previous with
  | some (previousId, place) => if previousId = id then (d.index, place) else d.index.findOrInsert id
  | none => d.index.findOrInsert id

/-- Enter one slot of the table, which reads a message or is empty. -/
def enter (d : Draft) (slot : WatchSlot) : Option MessageId → Draft
  | none => d
  | some id =>
    let placed := d.place id
    ⟨placed.1.appendWatch placed.2 slot, some (id, placed.2)⟩

end Draft

/-- The index of a table, given the message that each slot reads. Slots past the
capacity are ignored. -/
def ofTable (ids : List (Option MessageId)) : DispatchIndex :=
  ((WatchSlot.all.zip ids).foldl (fun d entry => d.enter entry.1 entry.2) Draft.empty).index

end DispatchIndex

end LimitMonitor
