import EntityMapping.Decimal.Shortest
import EntityMapping.Decimal.Reading

/-! The two machine formats as numbers of `Decimal`: their texts, their reading, and the remainder. -/

namespace EntityMapping.Decimal

def ofFloat (x : Float) : Number := binary64.decode x.toBits.toNat

def ofFloat32 (x : Float32) : Number := binary32.decode x.toBits.toNat

def Number.toFloat (n : Number) : Float := Float.ofBits (UInt64.ofNat (binary64.encode n))

def Number.toFloat32 (n : Number) : Float32 := Float32.ofBits (UInt32.ofNat (binary32.encode n))

def floatText (x : Float) : String := plainText binary64 (ofFloat x)

def float32Text (x : Float32) : String := plainText binary32 (ofFloat32 x)

def floatDetail (x : Float) : String := detailedText binary64 (ofFloat x)

def float32Detail (x : Float32) : String := detailedText binary32 (ofFloat32 x)

def readFloat? (cs : List Char) : Option Float := (binary64.read? cs).map Number.toFloat

def readFloat32? (cs : List Char) : Option Float32 := (binary32.read? cs).map Number.toFloat32

def floatRemainder (x y : Float) : Float := ((ofFloat x).remainder (ofFloat y)).toFloat

end EntityMapping.Decimal
