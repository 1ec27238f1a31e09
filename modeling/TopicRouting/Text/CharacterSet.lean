set_option autoImplicit false

namespace TopicRouting

def changesInto (points : List Nat) (n : Nat) : Bool :=
  (points.takeWhile (· ≤ n)).length % 2 = 1

end TopicRouting
