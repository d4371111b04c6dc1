/-! Serial ports as the platform lists them. -/
namespace SerialLink

/-- How a port is attached. -/
inductive PortKind where
  | usb (vendor product : Nat) (manufacturer productName serialNumber : Option String)
  | pci
  | bluetooth
  | unknown
  deriving DecidableEq, Repr

/-- A port and what is known of the device behind it. -/
structure PortInfo where
  name : String
  vendor : Option Nat := none
  product : Option Nat := none
  manufacturer : Option String := none
  productName : Option String := none
  serialNumber : Option String := none
  deriving DecidableEq, Repr

namespace PortInfo

/-- Only USB tells anything of the device. -/
def ofListed (name : String) : PortKind → PortInfo
  | .usb vendor product manufacturer productName serialNumber =>
    { name, vendor := some vendor, product := some product, manufacturer, productName,
      serialNumber }
  | _ => { name }

/-- USB vendor and product numbers of coordinators: an FTDI FT230X bridge, and firmware with USB of
its own. -/
def coordinators : List (Nat × Nat) := [(0x0403, 0x6015), (0x1CF1, 0x0030)]

/-- The device is known to be a coordinator. -/
def isCoordinator (info : PortInfo) : Bool :=
  match info.vendor, info.product with
  | some vendor, some product => coordinators.contains (vendor, product)
  | _, _ => false

end PortInfo

end SerialLink
