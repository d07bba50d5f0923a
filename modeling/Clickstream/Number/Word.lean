/-!
# Signed words

The stores and the clock keep whole numbers in signed words of 32 and 64 bits.
-/

namespace Clickstream

/-- A whole number that fits a signed word of 32 bits. -/
def fitsWord32 (n : Int) : Bool :=
  -2147483648 ≤ n && n < 2147483648

/-- A whole number that fits a signed word of 64 bits. -/
def fitsWord64 (n : Int) : Bool :=
  -9223372036854775808 ≤ n && n < 9223372036854775808

end Clickstream
