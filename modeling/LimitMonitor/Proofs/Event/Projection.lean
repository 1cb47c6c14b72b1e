import LimitMonitor.Event.Trace
import Mathlib.Data.List.Nodup

/-!
# Parts of a trace

A trace mixes reports, calls of the transport, questions and log entries. The
projections here pick out one kind, in order. Many traces are put together slot by
slot; the last two lemmas drop the slots that contribute nothing.
-/

namespace LimitMonitor

namespace Event

/-- The notification of an event that reports to the operators. -/
def notification? : Event → Option Notification
  | notify notification => some notification
  | _ => none

/-- The response that an event asks the transport for. -/
def request? : Event → Option UInt16
  | respond responseId => some responseId
  | _ => none

/-- The actionpoint and the response of an event that reports a response as issued. -/
def issue? : Event → Option (UInt16 × UInt16)
  | notify (.responseIssued actionpoint _ responseId _ _ _) => some (actionpoint, responseId)
  | _ => none

/-- The event is a call of the mission's predicate. Where none is registered, the
log entry of the default one stands for the call. -/
def asksPredicate : Event → Bool
  | consult _ | log (.noPredicate _) => true
  | _ => false

end Event

namespace Trace

/-- What operators are told, in order. -/
def notifications (trace : Trace) : List Notification := trace.filterMap Event.notification?

theorem notifications_append (first second : Trace) :
    notifications (first ++ second) = notifications first ++ notifications second :=
  List.filterMap_append

/-- The responses that the transport is asked for, in order. -/
def requested (trace : Trace) : List UInt16 := trace.filterMap Event.request?

/-- The actionpoints and the responses that are reported as issued, in order. -/
def issued (trace : Trace) : List (UInt16 × UInt16) := trace.filterMap Event.issue?

/-- The parts of the items that pass a test are the parts of all, where the others
have none. -/
theorem flatMap_filter {α : Type} {p : α → Bool} {f g : α → Trace} (items : List α)
    (h : ∀ item ∈ items, g item = if p item then f item else []) :
    (items.filter p).flatMap f = items.flatMap g := by
  induction items with
  | nil => rfl
  | cons item rest ih =>
    rw [List.flatMap_cons, h item List.mem_cons_self, List.filter_cons,
      ← ih fun i hi => h i (List.mem_cons_of_mem _ hi)]
    split
    · rw [List.flatMap_cons]
    · rfl

/-- Where only one item has a part, the trace is that part. -/
theorem flatMap_eq_part {α : Type} {items : List α} (nodup : items.Nodup) {f : α → Trace}
    {item : α} (hitem : item ∈ items) (h : ∀ other ∈ items, other ≠ item → f other = []) :
    items.flatMap f = f item := by
  obtain ⟨before, after, rfl⟩ := List.append_of_mem hitem
  have hunique := List.nodup_middle.mp nodup
  have fresh : item ∉ before ++ after := (List.nodup_cons.mp hunique).1
  have hbefore : before.flatMap f = [] :=
    List.flatMap_eq_nil_iff.mpr fun other hother =>
      h other (by simp [hother]) fun heq => fresh (by simp [← heq, hother])
  have hafter : after.flatMap f = [] :=
    List.flatMap_eq_nil_iff.mpr fun other hother =>
      h other (by simp [hother]) fun heq => fresh (by simp [← heq, hother])
  rw [List.flatMap_append, List.flatMap_cons, hbefore, hafter, List.nil_append, List.append_nil]

end Trace

end LimitMonitor
