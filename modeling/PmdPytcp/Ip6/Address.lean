import Mathlib

namespace PmdPytcp

abbrev Ip6Address := BitVec 128

namespace Ip6Address

def isGlobal (a : Ip6Address) : Bool := a &&& 0xe0000000000000000000000000000000 == 0x20000000000000000000000000000000

def isPrivate (a : Ip6Address) : Bool := a &&& 0xfe000000000000000000000000000000 == 0xfc000000000000000000000000000000

def isLinkLocal (a : Ip6Address) : Bool := a &&& 0xffc00000000000000000000000000000 == 0xfe800000000000000000000000000000

def isLoopback (a : Ip6Address) : Bool := a == 1

def isMulticast (a : Ip6Address) : Bool := a &&& 0xff000000000000000000000000000000 == 0xff000000000000000000000000000000

def isUnicast (a : Ip6Address) : Bool := isGlobal a || isPrivate a || isLinkLocal a || isLoopback a

end Ip6Address

end PmdPytcp
