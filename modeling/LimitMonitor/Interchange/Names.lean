import LimitMonitor.Actionpoint.State
import LimitMonitor.Equation.Evaluation
import LimitMonitor.Event.Text
import LimitMonitor.Field.Relation
import LimitMonitor.Interchange.Codec

/-!
# Names in documents

The values of the closed types of the monitor appear in documents under fixed
names.
-/

namespace LimitMonitor

namespace Codec

def verdict : Codec Verdict :=
  choice [.no, .yes, .error, .stale] fun
    | .no => "False"
    | .yes => "True"
    | .error => "Error"
    | .stale => "Stale"

def outcome : Codec Outcome :=
  choice [.pass, .fail, .error, .stale] fun
    | .pass => "Pass"
    | .fail => "Fail"
    | .error => "Error"
    | .stale => "Stale"

def state : Codec Actionpoint.State :=
  choice [.active, .passive, .disabled, .permanentlyOff, .unused] fun
    | .active => "Active"
    | .passive => "Passive"
    | .disabled => "Disabled"
    | .permanentlyOff => "PermanentlyOff"
    | .unused => "Unused"

def mode : Codec Mode := choice [.active, .passive, .disabled] Mode.name

def severity : Codec Severity :=
  choice [.debug, .info, .error, .critical] fun
    | .debug => "Debug"
    | .info => "Info"
    | .error => "Error"
    | .critical => "Critical"

def relation : Codec Relation :=
  choice [.le, .lt, .eq, .ne, .ge, .gt, .custom] fun
    | .le => "Le"
    | .lt => "Lt"
    | .eq => "Eq"
    | .ne => "Ne"
    | .ge => "Ge"
    | .gt => "Gt"
    | .custom => "Custom"

def byteOrder : Codec ByteOrder :=
  choice [.big, .little] fun
    | .big => "Big"
    | .little => "Little"

def format : Codec Format :=
  choice
    [.unused, .int8, .uint8, .int16 .big, .int16 .little, .uint16 .big, .uint16 .little, .int32 .big,
      .int32 .little, .uint32 .big, .uint32 .little, .single .big, .single .little] fun
    | .unused => "NotUsed"
    | .int8 => "I8"
    | .uint8 => "U8"
    | .int16 .big => "I16Be"
    | .int16 .little => "I16Le"
    | .uint16 .big => "U16Be"
    | .uint16 .little => "U16Le"
    | .int32 .big => "I32Be"
    | .int32 .little => "I32Le"
    | .uint32 .big => "U32Be"
    | .uint32 .little => "U32Le"
    | .single .big => "F32Be"
    | .single .little => "F32Le"

end Codec

end LimitMonitor
