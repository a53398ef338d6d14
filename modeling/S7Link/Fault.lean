import S7Link.Address.Writer
import S7Link.Status
import S7Link.Value.Codec

/-!
# Faults

Everything that can go wrong between a list of tags and their values. A fault names its cause with
the data that belong to it; `Fault.message` is the one place where causes are put into words. What
is wrong with bytes from the controller is a `Malformation`, and its words follow `Protocol error:`.
-/

namespace S7Link

open Text

/-- What is wrong with the bytes of an answer. -/
inductive Malformation where
  | frameTooShort (length : Nat)
  | envelopeVersion (version : UInt8)
  | envelopeLength (declared actual : Nat)
  | envelopeLengthTooSmall (declared : Nat)
  | notData
  | headerTooShort (length : Nat)
  | protocolId (id : UInt8)
  | answerHeaderTooShort (length : Nat)
  | notAnswer (kind : UInt8)
  | sectionsTooLong (declared actual : Nat)
  /-- The parameter section holds a function and no item count. -/
  | parameterTruncated
  | function (expected received : UInt8)
  | itemCount (expected : Nat) (received : UInt8)
  | itemMissing (tag : Tag)
  /-- A failed item ends before its fourth byte. -/
  | itemTruncated (tag : Tag)
  /-- The header of an item ends before its fourth byte. -/
  | itemHeaderTruncated (tag : Tag)
  | transportSize (code : UInt8)
  | itemSize (tag : Tag) (carried : Nat)
  | payloadTruncated (tag : Tag)
  | trailingBytes (count : Nat)
  | statusCount (expected received : Nat)
  | answerCount (batches answers : Nat)
  | payloadTooShort (type : DataType) (needed given : Nat)
  /-- A member of an item lies outside its bytes. -/
  | outsidePayload (member item : Tag)
  /-- A single read gave no value. -/
  | noValue (tag : Tag)
  /-- A malformation in the words of whoever found it. -/
  | other (reason : String)
deriving DecidableEq, Repr

/-- The wording of what is wrong with the bytes of an answer. -/
def Malformation.reason : Malformation → String
  | .frameTooShort length => s!"frame too short: expected at least 7 bytes, got {length}"
  | .envelopeVersion version => "unexpected TPKT version " ++ Numeral.hex 2 version.toNat
  | .envelopeLength declared actual =>
    s!"TPKT length {declared} does not match frame length {actual}"
  | .envelopeLengthTooSmall declared => s!"TPKT length {declared} too small"
  | .notData => "frame is not a COTP data transfer"
  | .headerTooShort length => s!"S7 header too short: expected at least 10 bytes, got {length}"
  | .protocolId id => "unexpected protocol id " ++ Numeral.hex 2 id.toNat
  | .answerHeaderTooShort length =>
    s!"ack data header too short: expected 12 bytes, got {length}"
  | .notAnswer kind => "expected ack data (0x03), got message type " ++ Numeral.hex 2 kind.toNat
  | .sectionsTooLong declared actual =>
    s!"header declares {declared} bytes but the PDU holds {actual}"
  | .parameterTruncated => "parameter section truncated"
  | .function expected received =>
    "expected function " ++ Numeral.hex 2 expected.toNat ++ ", got " ++
      Numeral.hex 2 received.toNat
  | .itemCount expected received => s!"expected {expected} items, got {received.toNat}"
  | .itemMissing tag => s!"missing item for {tag}"
  | .itemTruncated tag => s!"item for {tag} truncated"
  | .itemHeaderTruncated tag => s!"item header for {tag} truncated"
  | .transportSize code => "unsupported transport size " ++ Numeral.hex 2 code.toNat
  | .itemSize tag carried => s!"{tag} expects {tag.size} bytes, response carries {carried}"
  | .payloadTruncated tag => s!"payload for {tag} truncated"
  | .trailingBytes count => s!"{count} unexpected bytes after the last item"
  | .statusCount expected received =>
    s!"expected {expected} write statuses, got {received} bytes"
  | .answerCount batches answers =>
    s!"plan has {batches} batches but {answers} responses were given"
  | .payloadTooShort type needed given =>
    s!"{type.name} payload needs {needed} bytes, got {given}"
  | .outsidePayload member item => s!"{member} lies outside the payload of {item}"
  | .noValue tag => s!"no value returned for {tag}"
  | .other reason => reason

/-- What can go wrong between a list of tags and their values. -/
inductive Fault where
  | invalidAddress (cause : AddressFault)
  | invalidValue (tag : Tag) (cause : ValueFault)
  | countMismatch (tags values : Nat)
  | itemTooLarge (tag : Tag) (required largest : Nat) (pduSize : UInt16)
  /-- A request has no items or more than it may have. -/
  | tooManyItems (count largest : Nat)
  /-- A request or its answer does not fit the negotiated size. -/
  | requestTooLarge (size : Nat) (pduSize : UInt16)
  | readFailed (tag : Tag) (status : Status)
  | writeFailed (tag : Tag) (status : Status)
  | rejected (errorClass errorCode : UInt8)
  | malformed (cause : Malformation)
  | referenceMismatch (expected received : UInt16)
  | timeout
  | connection (text : String)
deriving Repr

namespace Fault

/-- A fault in words. -/
def message : Fault → String
  | .invalidAddress cause => "Invalid address: " ++ cause.reason
  | .invalidValue tag cause => s!"Invalid value for {tag}: " ++ cause.reason
  | .countMismatch tags values => s!"{tags} tags but {values} values given"
  | .itemTooLarge tag required largest pduSize =>
    s!"{tag} requires {required} bytes but a PDU of {pduSize.toNat} bytes can address at most " ++
      s!"{largest} bytes per item"
  | .tooManyItems count largest =>
    s!"Too many items in one request: {count} (maximum {largest})"
  | .requestTooLarge size pduSize =>
    s!"Request of {size} bytes exceeds the negotiated PDU of {pduSize.toNat} bytes"
  | .readFailed tag status =>
    s!"Read of {tag} failed: {status.text} (" ++ Numeral.hex 2 status.byte.toNat ++ ")"
  | .writeFailed tag status =>
    s!"Write of {tag} failed: {status.text} (" ++ Numeral.hex 2 status.byte.toNat ++ ")"
  | .rejected errorClass errorCode =>
    "Request rejected: error class " ++ Numeral.hex 2 errorClass.toNat ++ ", error code " ++
      Numeral.hex 2 errorCode.toNat
  | .malformed cause => "Protocol error: " ++ cause.reason
  | .referenceMismatch expected received =>
    "PDU reference mismatch: expected " ++ Numeral.hex 4 expected.toNat ++ ", received " ++
      Numeral.hex 4 received.toNat
  | .timeout => "Communication timeout"
  | .connection text => "I/O error: " ++ text

/-- The status that a fault of one item carries. -/
def status? : Fault → Option Status
  | .readFailed _ status => some status
  | .writeFailed _ status => some status
  | _ => none

end Fault

end S7Link
