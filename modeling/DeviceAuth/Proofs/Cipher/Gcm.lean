import DeviceAuth.Cipher.Gcm

/-! The keystream covers the text. Every block that comes out of the cipher has sixteen
octets, so a text is combined with the keystream to its end, and combining it once more gives
it back. -/

namespace DeviceAuth

/-! ## Blocks -/

namespace Aes256

theorem length_words {bound : Nat} {octets : Octets} (size : octets.length = 4 * bound) :
    (words bound octets).length = bound ∧ ∀ word ∈ words bound octets, word.length = 4 := by
  induction bound generalizing octets with
  | zero => exact ⟨rfl, nofun⟩
  | succ bound induction =>
      have left : (octets.drop 4).length = 4 * bound := by
        rw [List.length_drop]
        omega
      obtain ⟨count, rest⟩ := induction left
      constructor
      · rw [words, List.length_cons, count]
      · intro word member
        rcases List.mem_cons.mp member with rfl | member
        · simp
          omega
        · exact rest word member

theorem length_nextWord {recent : List Octets} (index : Nat) (enough : 8 ≤ recent.length)
    (words : ∀ word ∈ recent, word.length = 4) : (nextWord recent index).length = 4 := by
  have last : (recent.headD []).length = 4 := by
    cases recent with
    | nil => cases enough
    | cons first rest => exact words first (.head rest)
  have eighth : (recent.getD 7 []).length = 4 := by
    simp only [List.getD_eq_getElem?_getD, List.getElem?_eq_getElem enough, Option.getD_some]
    exact words _ (List.getElem_mem enough)
  have turned : ((recent.headD []).drop 1 ++ (recent.headD []).take 1).length = 4 := by
    simp only [List.length_append, List.length_drop, List.length_take, last]
    omega
  dsimp only [nextWord]
  rw [addWords, Octets.length_xor, eighth]
  split
  next =>
    split
    next first rest equal =>
      have size := congrArg List.length equal
      rw [List.length_map, turned, List.length_cons] at size
      rw [List.length_cons, ← size, Nat.min_self]
    next equal =>
      have size := congrArg List.length equal
      rw [List.length_map, turned, List.length_nil] at size
      cases size
  next =>
    split
    next => rw [List.length_map, last, Nat.min_self]
    next => rw [last, Nat.min_self]

theorem length_extend {count : Nat} {recent : List Octets} (enough : 8 ≤ recent.length)
    (words : ∀ word ∈ recent, word.length = 4) :
    ∀ word ∈ extend count recent, word.length = 4 := by
  induction count generalizing recent with
  | zero => exact words
  | succ count induction =>
      have more : 8 ≤ (nextWord recent recent.length :: recent).length :=
        Nat.le_succ_of_le enough
      apply induction more
      intro word member
      rcases List.mem_cons.mp member with rfl | member
      · exact length_nextWord _ enough words
      · exact words word member

theorem length_joinFour {words : List Octets} (sizes : ∀ word ∈ words, word.length = 4) :
    ∀ key ∈ joinFour words, key.length = 16 := by
  fun_induction joinFour words with
  | case1 first second third fourth rest induction =>
      simp only [List.forall_mem_cons] at sizes
      obtain ⟨firstSize, secondSize, thirdSize, fourthSize, restSizes⟩ := sizes
      intro key member
      rcases List.mem_cons.mp member with rfl | member
      · simp only [List.length_append]
        omega
      · exact induction restSizes key member
  | case2 => exact nofun

theorem length_roundKeys {key : Octets} (size : key.length = 32) :
    ∀ roundKey ∈ roundKeys key, roundKey.length = 16 := by
  have eightWords : key.length = 4 * 8 := size
  obtain ⟨count, sizes⟩ := length_words eightWords
  apply length_joinFour
  intro word member
  apply length_extend _ _ word (List.mem_reverse.mp member)
  · exact Nat.le_of_eq (count.symm.trans List.length_reverse.symm)
  · exact fun word member => sizes word (List.mem_reverse.mp member)

theorem length_shiftRows (block : Octets) : (shiftRows block).length = 16 := rfl

theorem length_mixColumns {block : Octets} (columns : block.length % 4 = 0) :
    (mixColumns block).length = block.length := by
  fun_induction mixColumns block with
  | case1 a b c d rest induction =>
      simp only [List.length_cons] at columns ⊢
      rw [induction (by omega)]
  | case2 block short =>
      match block with
      | [] => rfl
      | [_] | [_, _] | [_, _, _] => simp at columns
      | a :: b :: c :: d :: rest => exact absurd rfl (short a b c d rest)

theorem length_rounds {keys : List Octets} (sizes : ∀ key ∈ keys, key.length = 16)
    {block : Octets} (size : block.length = 16) : (rounds keys block).length = 16 := by
  fun_induction rounds keys block with
  | case1 block => exact size
  | case2 last block =>
      rw [Octets.length_xor, length_shiftRows, sizes last (.head [])]
      rfl
  | case3 key rest block _ induction =>
      apply induction (fun other member => sizes other (.tail key member))
      rw [Octets.length_xor, sizes key (.head rest), length_mixColumns, length_shiftRows]
      · rfl
      · rw [length_shiftRows]

theorem length_encryptWith {keys : List Octets} (sizes : ∀ key ∈ keys, key.length = 16)
    {block : Octets} (size : block.length = 16) : (encryptWith keys block).length = 16 := by
  cases keys with
  | nil => exact size
  | cons first rest =>
      apply length_rounds (fun key member => sizes key (.tail first member))
      rw [Octets.length_xor, size, sizes first (.head rest)]
      rfl

end Aes256

/-! ## Texts -/

namespace Gcm

variable {key nonce : Octets}

theorem length_keystream (keySize : key.length = 32) (nonceSize : nonce.length = 12)
    (size : Nat) : size ≤ (keystream key nonce size).length := by
  have block : ∀ index, (Aes256.encryptWith (Aes256.roundKeys key)
      (counterBlock nonce (index + 2))).length = 16 := by
    intro index
    apply Aes256.length_encryptWith (Aes256.length_roundKeys keySize)
    rw [counterBlock, List.length_append, nonceSize]
    rfl
  have total : (keystream key nonce size).length = (size + 15) / 16 * 16 := by
    simp only [keystream, List.length_flatMap, block, List.map_const', List.sum_replicate_nat,
      List.length_range]
  omega

theorem length_crypt (keySize : key.length = 32) (nonceSize : nonce.length = 12)
    (text : Octets) : (crypt key nonce text).length = text.length := by
  rw [crypt, Octets.length_xor]
  exact Nat.min_eq_left (length_keystream keySize nonceSize _)

theorem crypt_crypt (keySize : key.length = 32) (nonceSize : nonce.length = 12)
    (text : Octets) : crypt key nonce (crypt key nonce text) = text := by
  have covered := length_keystream keySize nonceSize text.length
  rw [crypt, length_crypt keySize nonceSize]
  exact Octets.xor_xor_cancel text _ covered

end Gcm

end DeviceAuth
