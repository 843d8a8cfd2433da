/-!
A token id is the position of a declaration in its vocabulary. The generated tables hold ids in
32-bit words, so a position is taken modulo 2^32.
-/

namespace TokenTables

structure TokenId where
  word : UInt32
  deriving DecidableEq, Repr

namespace TokenId

def ofNat (position : Nat) : TokenId := ⟨UInt32.ofNat position⟩

def index (id : TokenId) : Nat := id.word.toNat

def shown (id : TokenId) : String := "#" ++ id.index.repr

def described (id : TokenId) : String := "TokenId(" ++ id.index.repr ++ ")"

theorem index_ofNat (position : Nat) : (ofNat position).index = position % UInt32.size := by
  simp [index, ofNat]

@[simp] theorem ofNat_index (id : TokenId) : ofNat id.index = id := by
  simp [index, ofNat]

end TokenId

end TokenTables
