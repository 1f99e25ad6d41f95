import Mathlib.Algebra.BigOperators.Fin
import Mathlib.Logic.Equiv.Fin.Basic

/-! Packed arrays and little-endian words, as bijections with the bytes that store them. -/

namespace Semogakelar.Library

def rows (α : Type*) (m n : ℕ) : (Fin (m * n) → α) ≃ (Fin m → Fin n → α) :=
  (Equiv.arrowCongr finProdFinEquiv.symm (Equiv.refl α)).trans (Equiv.curry (Fin m) (Fin n) α)

lemma rows_apply {α : Type*} {m n : ℕ} (f : Fin (m * n) → α) (i : Fin m) (j : Fin n) :
    rows α m n f i j = f (finProdFinEquiv (i, j)) := rfl

def byteEquiv : UInt8 ≃ Fin 256 where
  toFun := UInt8.toFin
  invFun := UInt8.ofFin
  left_inv _ := rfl
  right_inv _ := rfl

def bitVecEquiv (w : ℕ) : Fin (2 ^ w) ≃ BitVec w where
  toFun := BitVec.ofFin
  invFun := BitVec.toFin
  left_inv _ := rfl
  right_inv _ := rfl

def littleEndian (w : ℕ) : (Fin w → UInt8) ≃ BitVec (8 * w) :=
  (Equiv.arrowCongr (Equiv.refl (Fin w)) byteEquiv).trans
    (finFunctionFinEquiv.trans ((finCongr (pow_mul 2 8 w).symm).trans (bitVecEquiv (8 * w))))

lemma littleEndian_zero (w : ℕ) : littleEndian w (fun _ => 0) = 0 := by
  apply BitVec.eq_of_toNat_eq
  have hz : byteEquiv 0 = 0 := rfl
  simp [littleEndian, bitVecEquiv, hz, finFunctionFinEquiv]

def uint16 : (Fin 2 → UInt8) ≃ UInt16 :=
  (littleEndian 2).trans ⟨UInt16.ofBitVec, UInt16.toBitVec, fun _ => rfl, fun _ => rfl⟩

def uint32 : (Fin 4 → UInt8) ≃ UInt32 :=
  (littleEndian 4).trans ⟨UInt32.ofBitVec, UInt32.toBitVec, fun _ => rfl, fun _ => rfl⟩

@[simp] lemma uint32_zero : uint32 (fun _ => 0) = 0 := congrArg UInt32.ofBitVec (littleEndian_zero 4)

lemma uint32_eq_zero {f : Fin 4 → UInt8} : uint32 f = 0 ↔ f = fun _ => 0 := by
  rw [← uint32_zero, uint32.injective.eq_iff]

end Semogakelar.Library
