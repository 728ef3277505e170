import Mathlib

namespace PmdPytcp

abbrev Ip4Address := BitVec 32

namespace Ip4Address

def isUnspecified (a : Ip4Address) : Bool := a = 0

def isInvalid (a : Ip4Address) : Bool := a &&& 0xFF000000 = 0 ∧ a ≠ 0

def isLinkLocal (a : Ip4Address) : Bool := a &&& 0xFFFF0000 = 0xA9FE0000

def isLoopback (a : Ip4Address) : Bool := a &&& 0xFF000000 = 0x7F000000

def isMulticast (a : Ip4Address) : Bool := a &&& 0xF0000000 = 0xE0000000

def isPrivate (a : Ip4Address) : Bool :=
  a &&& 0xFF000000 = 0x0A000000 ∨ a &&& 0xFFF00000 = 0xAC100000 ∨ a &&& 0xFFFF0000 = 0xC0A80000

def isReserved (a : Ip4Address) : Bool := a &&& 0xF0000000 = 0xF0000000 ∧ a ≠ 0xFFFFFFFF

def isLimitedBroadcast (a : Ip4Address) : Bool := a = 0xFFFFFFFF

def isGlobal (a : Ip4Address) : Bool :=
  !(isUnspecified a || isInvalid a || isLinkLocal a || isLoopback a || isMulticast a || isPrivate a ||
    isReserved a || isLimitedBroadcast a)

def isUnicast (a : Ip4Address) : Bool := isGlobal a || isPrivate a || isLinkLocal a || isLoopback a

end Ip4Address

end PmdPytcp
