/-!
Powers of the two bases that numbers are read and written in.
-/

namespace MetaConfig

def twoTo (power : Nat) : Nat := Nat.pow 2 power

def tenTo (power : Nat) : Nat := Nat.pow 10 power

theorem twoTo_pos (power : Nat) : 0 < twoTo power := Nat.pow_pos (by decide)

theorem tenTo_pos (power : Nat) : 0 < tenTo power := Nat.pow_pos (by decide)

end MetaConfig
