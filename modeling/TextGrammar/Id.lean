/-!
Numbers of token definitions and rules, in order of declaration. Both have 32 bits.
-/

namespace TextGrammar

structure TokenId where
  number : UInt32
  deriving DecidableEq, Repr

structure RuleId where
  number : UInt32
  deriving DecidableEq, Repr

namespace TokenId

/-- The number at a position. Only the low 32 bits of the position count. -/
def ofIndex (index : Nat) : TokenId := ⟨UInt32.ofNat index⟩

def index (id : TokenId) : Nat := id.number.toNat

instance : ToString TokenId := ⟨fun id => "T" ++ toString id.index⟩

theorem index_ofIndex (index : Nat) (small : index < UInt32.size) :
    (ofIndex index).index = index := by
  simp only [ofIndex, TokenId.index, UInt32.toNat_ofNat']
  exact Nat.mod_eq_of_lt small

theorem index_inj {one other : TokenId} : one.index = other.index ↔ one = other := by
  constructor
  · intro same
    obtain ⟨number⟩ := one
    obtain ⟨numberToo⟩ := other
    cases UInt32.toNat_inj.mp same
    rfl
  · exact congrArg TokenId.index

end TokenId

namespace RuleId

def ofIndex (index : Nat) : RuleId := ⟨UInt32.ofNat index⟩

def index (id : RuleId) : Nat := id.number.toNat

instance : ToString RuleId := ⟨fun id => "R" ++ toString id.index⟩

theorem index_ofIndex (index : Nat) (small : index < UInt32.size) :
    (ofIndex index).index = index := by
  simp only [ofIndex, RuleId.index, UInt32.toNat_ofNat']
  exact Nat.mod_eq_of_lt small

theorem index_inj {one other : RuleId} : one.index = other.index ↔ one = other := by
  constructor
  · intro same
    obtain ⟨number⟩ := one
    obtain ⟨numberToo⟩ := other
    cases UInt32.toNat_inj.mp same
    rfl
  · exact congrArg RuleId.index

end RuleId

end TextGrammar
