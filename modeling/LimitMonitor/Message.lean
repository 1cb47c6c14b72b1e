/-!
# Telemetry messages

A message is an identifier, its bytes and the time it carries. The monitor
reads no clock: every time that it stores came with a message. Identifiers and
raw values are shown to operators as `0x` and upper-case hexadecimal digits of
a fixed width, padded with zeros.
-/

namespace LimitMonitor

namespace Text

/-- The upper-case hexadecimal digit of a value below sixteen. -/
def hexDigit (n : Nat) : Char :=
  if n < 10 then Char.ofNat ('0'.toNat + n) else Char.ofNat ('A'.toNat + (n - 10))

/-- `0x` and the last `width` hexadecimal digits of a number, the most significant first. -/
def hexadecimal (width n : Nat) : String :=
  "0x" ++ String.ofList ((List.range width).reverse.map fun i => hexDigit (n / Nat.pow 16 i % 16))

end Text

/-- The identifier under which a message is published. -/
structure MessageId where
  value : UInt16
deriving DecidableEq

namespace MessageId

/-- An identifier is shown as four hexadecimal digits. -/
def text (id : MessageId) : String := Text.hexadecimal 4 id.value.toNat

end MessageId

/-- A time in milliseconds, as the message carries it. -/
abbrev Timestamp := UInt64

/-- A received message. Field offsets count from the first byte of the payload,
headers included. -/
structure Message where
  id : MessageId
  payload : Array UInt8
  timestamp : Timestamp
deriving DecidableEq

namespace Message

/-- The length of the message in bytes. -/
def length (m : Message) : Nat := m.payload.size

/-- A message without bytes. -/
def isEmpty (m : Message) : Bool := m.payload.isEmpty

end Message

end LimitMonitor
