import Mathlib.Data.List.Basic

/-!
# Two-sided block chaining

A block cipher is run over a list of blocks so that each block is mixed with
the previous ciphertext block before the cipher and with the previous cipher
input behind it.  The reader carries the same two values, under other names:
what the writer fed to its cipher is what the reader's cipher returns.

Nothing is asked of the cipher but an inverse, and of the mixing operation but
that it is commutative and cancels itself.
-/

namespace Lirvena
namespace Lib

/-- A block cipher under a fixed key, with the operation that mixes blocks. -/
structure BlockCipher (Block : Type*) where
  mix : Block → Block → Block
  encrypt : Block → Block
  decrypt : Block → Block
  mix_comm : ∀ left right, mix left right = mix right left
  mix_cancel : ∀ left right, mix (mix left right) right = left
  decrypt_encrypt : ∀ block, decrypt (encrypt block) = block
  encrypt_decrypt : ∀ block, encrypt (decrypt block) = block

namespace BlockCipher

variable {Block : Type*} (cipher : BlockCipher Block)

def chainEncrypt (priorEncrypted priorMixed : Block) : List Block → List Block
  | [] => []
  | plain :: rest =>
      let mixed := cipher.mix plain priorEncrypted
      let encrypted := cipher.mix (cipher.encrypt mixed) priorMixed
      encrypted :: chainEncrypt encrypted mixed rest

def chainDecrypt (priorDecrypted priorCiphertext : Block) : List Block → List Block
  | [] => []
  | encrypted :: rest =>
      let decrypted := cipher.decrypt (cipher.mix priorDecrypted encrypted)
      cipher.mix decrypted priorCiphertext :: chainDecrypt decrypted encrypted rest

@[simp] theorem chainEncrypt_length (priorEncrypted priorMixed : Block)
    (blocks : List Block) :
    (cipher.chainEncrypt priorEncrypted priorMixed blocks).length = blocks.length := by
  induction blocks generalizing priorEncrypted priorMixed with
  | nil => rfl
  | cons plain rest ih => simp [chainEncrypt, ih]

@[simp] theorem chainDecrypt_length (priorDecrypted priorCiphertext : Block)
    (blocks : List Block) :
    (cipher.chainDecrypt priorDecrypted priorCiphertext blocks).length =
      blocks.length := by
  induction blocks generalizing priorDecrypted priorCiphertext with
  | nil => rfl
  | cons encrypted rest ih => simp [chainDecrypt, ih]

theorem mix_cancel_left (left right : Block) :
    cipher.mix left (cipher.mix right left) = right := by
  rw [cipher.mix_comm left, cipher.mix_cancel]

/-- The reader that carries the writer's two values recovers the blocks. -/
theorem chainDecrypt_chainEncrypt (priorEncrypted priorMixed : Block)
    (blocks : List Block) :
    cipher.chainDecrypt priorMixed priorEncrypted
        (cipher.chainEncrypt priorEncrypted priorMixed blocks) = blocks := by
  induction blocks generalizing priorEncrypted priorMixed with
  | nil => rfl
  | cons plain rest ih =>
      simp only [chainEncrypt, chainDecrypt, cipher.mix_cancel_left,
        cipher.decrypt_encrypt, cipher.mix_cancel, ih]

/-- Every list of blocks is the encryption of what the reader makes of it. -/
theorem chainEncrypt_chainDecrypt (priorDecrypted priorCiphertext : Block)
    (blocks : List Block) :
    cipher.chainEncrypt priorCiphertext priorDecrypted
        (cipher.chainDecrypt priorDecrypted priorCiphertext blocks) = blocks := by
  induction blocks generalizing priorDecrypted priorCiphertext with
  | nil => rfl
  | cons encrypted rest ih =>
      have hback : cipher.mix (cipher.mix priorDecrypted encrypted) priorDecrypted =
          encrypted := by
        rw [cipher.mix_comm priorDecrypted, cipher.mix_cancel]
      simp only [chainDecrypt, chainEncrypt, cipher.mix_cancel, cipher.encrypt_decrypt,
        hback, ih]

end BlockCipher
end Lib
end Lirvena
