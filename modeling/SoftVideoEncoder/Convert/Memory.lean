import SoftVideoEncoder.Words
import Mathlib.Logic.Function.Basic

/-!
# Byte stores over a 64-bit address space

The converters read a locked graphic buffer and write a destination frame through pointers that
the source moves with `size_t` arithmetic. A conversion is the list of byte stores it performs,
in program order; the destination after the call is that list applied to the destination before
it. Reads come from the source memory, which the conversion does not write.
-/

namespace SoftVideoEncoder

abbrev Addr := SizeT
abbrev Mem := Addr → Byte

def addressByte : Mem := fun a => a.setWidth 8

/-- One byte store: the address and the byte written there. -/
abbrev Store := Addr × Byte

def applyStores (m : Mem) : List Store → Mem
  | [] => m
  | (a, v) :: stores => applyStores (Function.update m a v) stores

/-- `memcpy(dst, src, n)`. -/
def memcpy (mem : Mem) : (dst src : Addr) → Nat → List Store
  | _, _, 0 => []
  | dst, src, n + 1 => (dst, mem src) :: memcpy mem (dst + 1) (src + 1) n

def Functional (stores : List Store) : Prop :=
  ∀ a v w, (a, v) ∈ stores → (a, w) ∈ stores → v = w

theorem mem_memcpy (mem : Mem) (dst src : Addr) (n : Nat) (a : Addr) (v : Byte) :
    (a, v) ∈ memcpy mem dst src n ↔ ∃ k < n, a = dst + k ∧ v = mem (src + k) := by
  induction n generalizing dst src with
  | zero => simp [memcpy]
  | succ n ih =>
    rw [memcpy, List.mem_cons, Prod.mk.injEq, ih, Nat.exists_lt_succ_left]
    simp only [Nat.cast_zero, add_zero, Nat.cast_succ, add_assoc, add_comm (1 : SizeT)]

theorem applyStores_of_not_mem (m : Mem) (stores : List Store) (a : Addr)
    (ha : ∀ v, (a, v) ∉ stores) : applyStores m stores a = m a := by
  induction stores generalizing m with
  | nil => rfl
  | cons s stores ih =>
    obtain ⟨b, w⟩ := s
    have hb : a ≠ b := fun h => ha w (h ▸ List.mem_cons_self _ _)
    rw [applyStores, ih _ fun v hv => ha v (List.mem_cons_of_mem _ hv),
      Function.update_noteq hb]

theorem applyStores_of_mem (m : Mem) {stores : List Store} (hf : Functional stores)
    {a : Addr} {v : Byte} (ha : (a, v) ∈ stores) : applyStores m stores a = v := by
  induction stores generalizing m v with
  | nil => simp at ha
  | cons s stores ih =>
    obtain ⟨b, w⟩ := s
    have htail : Functional stores := fun a v w hv hw =>
      hf a v w (List.mem_cons_of_mem _ hv) (List.mem_cons_of_mem _ hw)
    rw [applyStores]
    by_cases hin : ∃ u, (a, u) ∈ stores
    · obtain ⟨u, hu⟩ := hin
      rw [ih _ htail hu]
      exact hf a u v (List.mem_cons_of_mem _ hu) ha
    · rw [applyStores_of_not_mem _ _ _ fun u hu => hin ⟨u, hu⟩]
      rcases List.mem_cons.mp ha with h | h
      · obtain ⟨rfl, rfl⟩ := Prod.mk.inj h
        exact Function.update_same _ _ _
      · exact absurd ⟨v, h⟩ hin

end SoftVideoEncoder
