import Mathlib.Data.List.Nodup

/-! # `LinkedHashMap`

The entries in the order in which their keys were first put; no key has two of them.
-/
namespace LocalCall.Java
set_option autoImplicit false

structure LinkedHashMap (κ ν : Type) where
  entries : List (κ × ν)
  nodup : (entries.map Prod.fst).Nodup

namespace LinkedHashMap
variable {κ ν : Type}

instance [DecidableEq κ] [DecidableEq ν] : DecidableEq (LinkedHashMap κ ν) := fun m m' =>
  decidable_of_iff (m.entries = m'.entries) ⟨fun h => by cases m; cases m'; cases h; rfl,
    fun h => h ▸ rfl⟩

def empty : LinkedHashMap κ ν := ⟨[], List.nodup_nil⟩

def keys (m : LinkedHashMap κ ν) : List κ := m.entries.map Prod.fst

@[simp] theorem keys_empty : (empty : LinkedHashMap κ ν).keys = [] := rfl

variable [DecidableEq κ]

def containsKey (m : LinkedHashMap κ ν) (key : κ) : Bool := decide (key ∈ m.keys)

/-- A key that is there already keeps its place. -/
def putEntries (entries : List (κ × ν)) (key : κ) (value : ν) : List (κ × ν) :=
  if key ∈ entries.map Prod.fst then
    entries.map fun entry => if entry.1 = key then (key, value) else entry
  else entries ++ [(key, value)]

theorem keys_putEntries (entries : List (κ × ν)) (key : κ) (value : ν) :
    (putEntries entries key value).map Prod.fst =
      if key ∈ entries.map Prod.fst then entries.map Prod.fst
      else entries.map Prod.fst ++ [key] := by
  rw [putEntries]
  split
  · rw [List.map_map]
    apply List.map_congr_left
    intro entry _
    rw [Function.comp_apply]
    split
    · rename_i hKey
      exact hKey.symm
    · rfl
  · exact List.map_append

theorem nodup_putEntries {entries : List (κ × ν)} (h : (entries.map Prod.fst).Nodup) (key : κ)
    (value : ν) : ((putEntries entries key value).map Prod.fst).Nodup := by
  rw [keys_putEntries]
  split
  · exact h
  · rename_i hNew
    rw [List.nodup_append_comm, List.singleton_append]
    exact List.nodup_cons.mpr ⟨hNew, h⟩

def put (m : LinkedHashMap κ ν) (key : κ) (value : ν) : LinkedHashMap κ ν :=
  ⟨putEntries m.entries key value, nodup_putEntries m.nodup key value⟩

theorem keys_put (m : LinkedHashMap κ ν) (key : κ) (value : ν) :
    (m.put key value).keys = if m.containsKey key then m.keys else m.keys ++ [key] := by
  simp only [containsKey, decide_eq_true_eq]
  exact keys_putEntries m.entries key value

theorem containsKey_iff (m : LinkedHashMap κ ν) (key : κ) :
    m.containsKey key = true ↔ key ∈ m.keys := decide_eq_true_iff

end LinkedHashMap
end LocalCall.Java
