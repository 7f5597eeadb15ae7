set_option autoImplicit false

/-! The powers that binary and decimal places count. -/

namespace EntityMapper

/-- What a digit counts that has `places` binary places behind it. -/
def twoTo (places : Nat) : Nat := Nat.pow 2 places

/-- What a digit counts that has `places` decimal places behind it. -/
def tenTo (places : Nat) : Nat := Nat.pow 10 places

theorem twoTo_pos (places : Nat) : 0 < twoTo places := Nat.pow_pos (by decide)

theorem tenTo_pos (places : Nat) : 0 < tenTo places := Nat.pow_pos (by decide)

end EntityMapper
