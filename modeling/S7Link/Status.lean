import S7Link.Text.Basic

/-!
# Item status

The controller answers each item of a request with one byte. `FF` means success, seven other values
have a meaning of their own, and any other byte is a failure without a name.
-/

namespace S7Link

open Text

/-- The byte with which the controller answers one item. -/
structure Status where
  byte : UInt8
deriving DecidableEq, Repr

namespace Status

/-- The item was read or written. -/
def success : Status := ⟨0xFF⟩

/-- The item lies past the end of its block. -/
def outOfRange : Status := ⟨0x05⟩

/-- There is no such block. -/
def noBlock : Status := ⟨0x0A⟩

/-- Whether a status reports success. -/
def isSuccess (status : Status) : Bool := status == success

/-- The short name of a status. -/
def name (status : Status) : String :=
  match status.byte with
  | 0x00 => "Reserved"
  | 0x01 => "HardwareFault"
  | 0x03 => "NoAccess"
  | 0x05 => "OutOfRange"
  | 0x06 => "UnsupportedType"
  | 0x07 => "InvalidDataSize"
  | 0x0A => "ObjectDoesNotExist"
  | 0xFF => "Success"
  | byte => s!"Unknown({byte.toNat})"

/-- What a status says, in words. -/
def text (status : Status) : String :=
  match status.byte with
  | 0x00 => "reserved"
  | 0x01 => "hardware fault"
  | 0x03 => "no access"
  | 0x05 => "address out of range"
  | 0x06 => "data type not supported"
  | 0x07 => "invalid data size"
  | 0x0A => "object does not exist"
  | 0xFF => "success"
  | byte => "unknown return code " ++ Numeral.hex 2 byte.toNat

end Status

end S7Link
