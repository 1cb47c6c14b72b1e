import LimitMonitor.Counter
import LimitMonitor.Event.Text
import LimitMonitor.Message
import LimitMonitor.Refusal

/-!
# Notifications

What the monitor reports to operators. A notification carries the facts; its
identifier, severity and text are functions of them. Only a response takes all
three from the definition of its actionpoint.
-/

namespace LimitMonitor

/-- The status with which the transport refuses a call. -/
abbrev Status := Int32

/-- What the monitor reports. Slots are named by their numbers. -/
inductive Notification where
  /-- Every entry of a table passed its checks. -/
  | tableAccepted (table : Table) (tally : Tally)
  /-- An entry of a table failed a check; the first one is named. -/
  | tableRejected (table : Table) (entry : UInt16) (defect : Defect) (tally : Tally)
  /-- The transport did not register a message. -/
  | subscribeFailed (id : MessageId) (status : Status)
  /-- The transport did not withdraw a message. -/
  | unsubscribeFailed (id : MessageId) (status : Status)
  /-- A message came that no watchpoint reads. -/
  | unreferencedMessage (id : MessageId)
  /-- A watchpoint has a format that cannot be read. -/
  | undefinedFormat (watchpoint : UInt16) (code : UInt8)
  /-- A watchpoint has a relation that cannot be tested. -/
  | undefinedRelation (watchpoint : UInt16) (code : UInt8)
  /-- The field of a watchpoint runs past the end of the message. -/
  | fieldPastEnd (watchpoint : UInt16) (id : MessageId) (offset : UInt16) (width : UInt8)
      (length : Nat)
  /-- The field of a watchpoint is not a number. -/
  | notANumber (watchpoint : UInt16) (bits : UInt32)
  /-- The equation of an actionpoint is malformed. -/
  | illegalEquation (actionpoint : UInt16) (malformed : Malformed)
  /-- The equation of an actionpoint came out as an error. -/
  | actionError (actionpoint : UInt16)
  /-- An actionpoint changed from pass to fail. -/
  | passToFail (actionpoint : UInt16)
  /-- An actionpoint changed from fail to pass. -/
  | failToPass (actionpoint : UInt16)
  /-- A passive actionpoint failed again. -/
  | failedWhilePassive (actionpoint : UInt16) (failures : Counter) (responseId : UInt16)
  /-- An actionpoint did not respond, because the engine is passive. -/
  | responseSuppressed (actionpoint : UInt16) (failures : Counter) (responseId : UInt16)
  /-- An actionpoint responded. -/
  | responseIssued (actionpoint : UInt16) (failures : Counter) (responseId eventId : UInt16)
      (level : Severity) (eventText : EventText)
  /-- A sample request reaches past the end of the table. -/
  | sampleOutOfRange (first last : UInt16)
deriving DecidableEq

namespace Notification

/-- The number under which a notification is known. -/
def id : Notification → UInt16
  | tableAccepted .watchpoints _ => 20
  | tableRejected .watchpoints _ _ _ => 21
  | tableAccepted .actionpoints _ => 22
  | tableRejected .actionpoints _ (.equation _) _ => 24
  | tableRejected .actionpoints _ _ _ => 23
  | subscribeFailed _ _ => 25
  | unsubscribeFailed _ _ => 26
  | unreferencedMessage _ => 30
  | undefinedFormat _ _ => 31
  | undefinedRelation _ _ => 32
  | fieldPastEnd _ _ _ _ _ => 33
  | notANumber _ _ => 34
  | illegalEquation _ _ => 40
  | actionError _ => 41
  | passToFail _ => 42
  | failToPass _ => 43
  | failedWhilePassive _ _ _ => 44
  | responseSuppressed _ _ _ => 45
  | responseIssued _ _ _ eventId _ _ => eventId
  | sampleOutOfRange _ _ => 46

/-- The severity of a notification. -/
def severity : Notification → Severity
  | tableAccepted _ _ | unreferencedMessage _ | passToFail _ | failToPass _
  | failedWhilePassive _ _ _ => .info
  | responseSuppressed _ _ _ => .debug
  | responseIssued _ _ _ _ level _ => level
  | tableRejected _ _ _ _ | subscribeFailed _ _ | unsubscribeFailed _ _ | undefinedFormat _ _
  | undefinedRelation _ _ | fieldPastEnd _ _ _ _ _ | notANumber _ _ | illegalEquation _ _
  | actionError _ | sampleOutOfRange _ _ => .error

/-- The three numbers that close the text of a failure. -/
def failureText (actionpoint : UInt16) (failures : Counter) (responseId : UInt16) : String :=
  s!"AP = {actionpoint}, FailCount = {failures.value}, RTS = {responseId}"

/-- The text of a notification. -/
def text : Notification → String
  | tableAccepted .watchpoints tally => s!"WDT verify results: {tally.text}"
  | tableAccepted .actionpoints tally => s!"ADT verify results: {tally.text}"
  | tableRejected .watchpoints entry defect tally =>
    s!"WDT verify err: WP = {entry}, {defect.text}; {tally.text}"
  | tableRejected .actionpoints entry defect tally =>
    s!"ADT verify err: AP = {entry}, {defect.text}; {tally.text}"
  | subscribeFailed id status => s!"Error subscribing watchpoint: MID = {id.text}, RC = {status}"
  | unsubscribeFailed id status =>
    s!"Error unsubscribing watchpoint: MID = {id.text}, RC = {status}"
  | unreferencedMessage id => s!"Msg with unreferenced message ID rcvd: ID = {id.text}"
  | undefinedFormat watchpoint code =>
    s!"WP has undefined data type: WP = {watchpoint}, DataType = {code}"
  | undefinedRelation watchpoint code =>
    s!"WP has invalid operator ID: WP = {watchpoint}, OperID = {code}"
  | fieldPastEnd watchpoint id offset width length =>
    s!"WP offset error: MID = {id.text}, WP = {watchpoint}, Offset = {offset}, " ++
      s!"DataSize = {width}, MsgLen = {length}"
  | notANumber watchpoint bits =>
    s!"WP data value is a float NAN: WP = {watchpoint}, Value = {Text.hexadecimal 8 bits.toNat}"
  | illegalEquation actionpoint m =>
    s!"AP has illegal RPN expression: AP = {actionpoint}, " ++
      s!"LastOperand = {m.token}, StackPtr = {m.depth}"
  | actionError actionpoint => s!"AP evaluated to error: AP = {actionpoint}"
  | passToFail actionpoint => s!"AP state change from PASS to FAIL: AP = {actionpoint}"
  | failToPass actionpoint => s!"AP state change from FAIL to PASS: AP = {actionpoint}"
  | failedWhilePassive actionpoint failures responseId =>
    s!"AP failed while passive: {failureText actionpoint failures responseId}"
  | responseSuppressed actionpoint failures responseId =>
    s!"AP failed while LC App passive: {failureText actionpoint failures responseId}"
  | responseIssued actionpoint failures responseId _ _ eventText =>
    s!"{eventText.text}: {failureText actionpoint failures responseId}"
  | sampleOutOfRange first last =>
    s!"Sample AP error, invalid AP number: start = {first}, end = {last}"

end Notification

end LimitMonitor
