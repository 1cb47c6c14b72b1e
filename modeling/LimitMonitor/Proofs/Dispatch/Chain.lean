import LimitMonitor.Dispatch.Index

/-!
# Chains of links

A chain is followed from a head through `next` until a link is absent.
`Chain next head links` says which links are met on the way, in order, and that
the way ends after them. A head has one chain (`Chain.unique`). A chain survives every
change of `next` that keeps the links it meets (`Chain.congr`), and grows at its end
(`Chain.concat`).

The two walks of the dispatch index read a chain to its end when their bound is
at least its length: `findFrom_eq_find?` and `watchersFrom_eq`.
-/

namespace LimitMonitor

/-- The way from `head` along `next` meets exactly these links, and ends. -/
def Chain {α : Type} (next : α → Option α) : Option α → List α → Prop
  | head, [] => head = none
  | head, link :: rest => head = some link ∧ Chain next (next link) rest

namespace Chain

variable {α : Type} {next next' : α → Option α} {head : Option α}
variable {links other : List α}

/-- A chain depends on the links that it meets and on no others. -/
theorem congr (h : Chain next head links) (agree : ∀ a ∈ links, next' a = next a) :
    Chain next' head links := by
  induction links generalizing head with
  | nil => exact h
  | cons a rest ih =>
    refine ⟨h.1, ?_⟩
    rw [agree a List.mem_cons_self]
    exact ih h.2 fun b hb => agree b (List.mem_cons_of_mem a hb)

/-- **A chain grows at its end**: the last link is led to a new one, which leads
nowhere, and the links before it are kept. -/
theorem concat {last a : α} (h : Chain next head (links ++ [last]))
    (toNew : next' last = some a) (ends : next' a = none)
    (agree : ∀ b ∈ links, next' b = next b) : Chain next' head (links ++ [last, a]) := by
  induction links generalizing head with
  | nil => exact ⟨h.1, toNew, ends⟩
  | cons b rest ih =>
    refine ⟨h.1, ?_⟩
    rw [agree b List.mem_cons_self]
    exact ih h.2 fun c hc => agree c (List.mem_cons_of_mem b hc)

/-- There is one way from a head. -/
theorem unique (h : Chain next head links) (h' : Chain next head other) : links = other := by
  induction links generalizing head other with
  | nil =>
    cases other with
    | nil => rfl
    | cons a rest => exact absurd (Eq.trans (Eq.symm h) h'.1) nofun
  | cons a rest ih =>
    cases other with
    | nil => exact absurd (h.1.symm.trans h') nofun
    | cons b rest' =>
      obtain rfl : a = b := Option.some.inj (h.1.symm.trans h'.1)
      rw [ih h.2 h'.2]

/-- The last link of a chain leads nowhere. -/
theorem next_getLast {last : α} (h : Chain next head links) (hlast : links.getLast? = some last) :
    next last = none := by
  induction links generalizing head with
  | nil => simp at hlast
  | cons a rest ih =>
    cases rest with
    | nil =>
      obtain rfl : a = last := by simpa using hlast
      exact h.2
    | cons b rest => exact ih h.2 (by simpa using hlast)

/-- A chain without links has no head. -/
theorem head_eq_none_iff (h : Chain next head links) : head = none ↔ links = [] := by
  cases links with
  | nil => exact iff_of_true h rfl
  | cons a rest => simp [h.1]

end Chain

namespace DispatchIndex

/-- The message link after the one at a place, on the chain of its bucket. -/
def nextMessage (messages : Array MessageLink) (place : Nat) : Option Nat :=
  messages[place]?.bind (·.next)

/-- The link at a place is that of the message. -/
def isLinkOf (messages : Array MessageLink) (id : MessageId) (place : Nat) : Bool :=
  messages[place]?.any fun link => link.id = id

/-- **The search along a chain of messages** finds the first link of the message,
if its bound is at least the length of the chain. -/
theorem findFrom_eq_find? {messages : Array MessageLink} (id : MessageId) {links : List Nat}
    {fuel : Nat} {head : Option Nat} (h : Chain (nextMessage messages) head links)
    (inside : ∀ place ∈ links, place < messages.size) (enough : links.length ≤ fuel) :
    findFrom messages id fuel head = links.find? (isLinkOf messages id) := by
  induction links generalizing fuel head with
  | nil =>
    obtain rfl : head = none := h
    cases fuel <;> rfl
  | cons place rest ih =>
    obtain ⟨rfl, tail⟩ := h
    have hp : place < messages.size := inside place List.mem_cons_self
    have hlink : messages[place]? = some messages[place] := Array.getElem?_eq_getElem hp
    cases fuel with
    | zero => exact absurd enough (by simp)
    | succ fuel =>
      have hrest : findFrom messages id fuel messages[place].next =
          rest.find? (isLinkOf messages id) :=
        ih (by simpa [nextMessage, hlink] using tail)
          (fun q hq => inside q (List.mem_cons_of_mem place hq)) (by simpa using enough)
      by_cases hid : messages[place].id = id
      · simp [findFrom, isLinkOf, hlink, hid]
      · simp [findFrom, isLinkOf, hlink, hid, hrest]

/-- **The walk along a chain of watchpoints** gives the whole chain, if its bound
is at least the length of the chain. -/
theorem watchersFrom_eq {nextWatch : Vector (Option WatchSlot) watchCapacity}
    {links : List WatchSlot} {fuel : Nat} {head : Option WatchSlot}
    (h : Chain nextWatch.get head links) (enough : links.length ≤ fuel) :
    watchersFrom nextWatch fuel head = links := by
  induction links generalizing fuel head with
  | nil =>
    obtain rfl : head = none := h
    cases fuel <;> rfl
  | cons slot rest ih =>
    obtain ⟨rfl, tail⟩ := h
    cases fuel with
    | zero => exact absurd enough (by simp)
    | succ fuel => rw [watchersFrom, ih tail (by simpa using enough)]

end DispatchIndex

end LimitMonitor
