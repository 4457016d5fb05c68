/-! Words of sixty-four bits: the bounds of the numbers they hold. `size` and `half` are one more than the
largest number without a sign and with one. -/
namespace MoquiLint.Word

def size : Nat := 0x10000000000000000

def half : Nat := 0x8000000000000000

def least : Int := -0x8000000000000000

def holds (n : Int) : Bool := least ≤ n && n < half

end MoquiLint.Word
