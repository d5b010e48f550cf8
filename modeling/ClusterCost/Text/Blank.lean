/-!
# Blank characters and trimming

`isBlank` holds of the characters with the Unicode property White_Space. `trim` removes them from both ends of a
text and touches nothing between the first and the last character that is not blank.
-/
namespace ClusterCost.Text

/-- The blank characters: the twenty-five with the property White_Space. -/
def isBlank (c : Char) : Bool :=
  let n := c.toNat
  (0x09 ≤ n && n ≤ 0x0D) || n == 0x20 || n == 0x85 || n == 0xA0 || n == 0x1680 ||
    (0x2000 ≤ n && n ≤ 0x200A) || n == 0x2028 || n == 0x2029 || n == 0x202F || n == 0x205F || n == 0x3000

def trimStart (cs : List Char) : List Char :=
  cs.dropWhile isBlank

def trimEnd (cs : List Char) : List Char :=
  (cs.reverse.dropWhile isBlank).reverse

def trim (cs : List Char) : List Char :=
  trimEnd (trimStart cs)

def isAllBlank (s : String) : Bool :=
  s.toList.all isBlank

end ClusterCost.Text
