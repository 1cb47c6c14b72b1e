import LimitMonitor.Capacity

/-!
# Severities and event texts

A definition carries the severity of its response notification as a code, and
the text of it in at most thirty-two bytes of UTF-8. A longer text is cut
before the first character that no longer fits, so a character is kept whole or
not at all, and nothing after it is kept.
-/

namespace LimitMonitor

/-- The severity of a notification. -/
inductive Severity where
  /-- Detail for a diagnosis. -/
  | debug
  /-- An expected change. -/
  | info
  /-- Something failed. -/
  | error
  /-- An operator has to act. -/
  | critical
deriving DecidableEq

namespace Severity

/-- The code of a severity in a definition. -/
def code : Severity → UInt8
  | debug => 1
  | info => 2
  | error => 3
  | critical => 4

/-- The severity with a code, if there is one. -/
def ofCode? (code : UInt8) : Option Severity :=
  match code with
  | 1 => some debug
  | 2 => some info
  | 3 => some error
  | 4 => some critical
  | _ => none

theorem ofCode?_code (s : Severity) : ofCode? s.code = some s := by
  cases s <;> rfl

end Severity

/-- A text of at most `eventTextCapacity` bytes. -/
structure EventText where
  text : String
  fits : text.utf8ByteSize ≤ eventTextCapacity
deriving DecidableEq

namespace EventText

/-- No text. -/
def empty : EventText := ⟨"", by decide⟩

/-- Append characters until one does not fit. -/
def extend (t : EventText) : List Char → EventText
  | [] => t
  | c :: rest =>
    if h : t.text.utf8ByteSize + c.utf8Size ≤ eventTextCapacity then
      extend ⟨t.text.push c, by rw [String.utf8ByteSize_push]; exact h⟩ rest
    else t

/-- As much of a text as fits, in whole characters. -/
def truncate (s : String) : EventText := empty.extend s.toList

/-- A text, if all of it fits. -/
def ofString? (s : String) : Option EventText :=
  if h : s.utf8ByteSize ≤ eventTextCapacity then some ⟨s, h⟩ else none

end EventText

end LimitMonitor
