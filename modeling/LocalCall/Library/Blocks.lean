import Mathlib.Data.List.Basic

/-! # A list cut into blocks of one length

What is left at the end and does not fill a block is left out.
-/
set_option autoImplicit false

namespace Blocks

variable {α : Type} {n : Nat}

def blocks (n : Nat) (l : List α) : List (List α) :=
  (List.range (l.length / n)).map fun i => (l.drop (i * n)).take n

theorem blocks_of_lt {l : List α} (h : l.length < n) : blocks n l = [] := by
  rw [blocks, Nat.div_eq_of_lt h, List.range_zero, List.map_nil]

theorem blocks_append (hn : 0 < n) {block : List α} (hBlock : block.length = n) (l : List α) :
    blocks n (block ++ l) = block :: blocks n l := by
  have hCount : (block ++ l).length / n = l.length / n + 1 := by
    rw [List.length_append, hBlock, Nat.add_div_left _ hn]
  rw [blocks, blocks, hCount, List.range_succ_eq_map, List.map_cons, List.map_map]
  congr 1
  · rw [Nat.zero_mul, List.drop_zero, ← hBlock, List.take_left]
  · apply List.map_congr_left
    intro i _
    have hDrop : (i + 1) * n = block.length + i * n := by
      rw [Nat.succ_mul, hBlock, Nat.add_comm]
    change ((block ++ l).drop ((i + 1) * n)).take n = _
    rw [hDrop, List.drop_length_add_append]

theorem blocks_flatten_append (hn : 0 < n) {bs : List (List α)} (hBlocks : ∀ b ∈ bs, b.length = n)
    {rest : List α} (hRest : rest.length < n) : blocks n (bs.flatten ++ rest) = bs := by
  induction bs with
  | nil => exact blocks_of_lt hRest
  | cons b bs ih =>
    have hHere : b.length = n := hBlocks b List.mem_cons_self
    have hThere := ih fun b' hb' => hBlocks b' (List.mem_cons_of_mem b hb')
    rw [List.flatten_cons, List.append_assoc, blocks_append hn hHere, hThere]

theorem blocks_flatten (hn : 0 < n) {bs : List (List α)} (hBlocks : ∀ b ∈ bs, b.length = n) :
    blocks n bs.flatten = bs := by
  have h := @blocks_flatten_append α n hn bs hBlocks [] hn
  rwa [List.append_nil] at h

end Blocks
