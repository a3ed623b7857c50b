/-!
This module contains device numbers of 32 bits: eight bits of major number above 24 bits of minor
number.
-/

namespace NativeCall.Device

def major (device : Int32) : Int32 :=
  (device >>> 24) &&& 0xFF

def minor (device : Int32) : Int32 :=
  device &&& 0x00FFFFFF

end NativeCall.Device
