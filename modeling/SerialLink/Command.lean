import SerialLink.Command.Value

/-! Commands: the messages that host and device exchange, one in each frame. -/
namespace SerialLink

/-- A command. Its payload is shaped by the layout of its id. -/
structure Command where
  id : UInt8
  /-- Sequence number. A confirm repeats the id and sequence number of the command it answers. -/
  seq : UInt8 := 0
  /-- Status byte of the header. -/
  status : UInt8 := 0
  values : List Value := []
  deriving DecidableEq, Repr

namespace Command

/-- Bytes before the stored length: id, sequence number and status. -/
def headerLength : Nat := 3

/-- Bytes before the first field: the header and the stored length. -/
def prologueLength : Nat := headerLength + 2

/-- Most bytes that one raw data field may hold. -/
def maxData : Nat := 128

/-- Most bytes that a command may take in a frame. -/
def maxLength : Nat := 256

/-- The number held by the word at the given place. -/
def number? (command : Command) (index : Nat) : Option Nat :=
  command.values[index]?.bind Value.toNat?

/-! ### Ids of the built-in commands -/

/-- Acknowledgment; a header and nothing else. -/
def acknowledge : UInt8 := 0x01

/-- Fetches the confirm of a data request. -/
def dataConfirm : UInt8 := 0x04

/-- Device status report, and probe for one. -/
def deviceStatus : UInt8 := 0x07

/-- Asks for another network state. -/
def changeNetworkState : UInt8 := 0x08

def readParameter : UInt8 := 0x0A

def writeParameter : UInt8 := 0x0B

/-- Asks for the firmware version. -/
def version : UInt8 := 0x0D

/-- Device status report that nobody asked for. -/
def deviceStatusChanged : UInt8 := 0x0E

/-- Hands application data to the device. -/
def dataRequest : UInt8 := 0x12

/-- Fetches application data that the device received. -/
def dataIndication : UInt8 := 0x17

/-- A poll that the device saw. -/
def macPoll : UInt8 := 0x1C

def updateNeighbor : UInt8 := 0x1D

/-- A beacon received during a scan. -/
def beaconIndication : UInt8 := 0x1F

/-- Restarts the device into its update loader. -/
def updateBootloader : UInt8 := 0x21

/-- Part of the neighbour table. -/
def neighborList : UInt8 := 0x2A

/-- A line of the firmware's log. -/
def debugLog : UInt8 := 0x30

end Command

end SerialLink
