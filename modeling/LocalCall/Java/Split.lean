import LocalCall.Java.Text

/-! # The pieces of a string between its colons -/
namespace LocalCall.Java
set_option autoImplicit false

theorem rdropWhile_cons {α : Type} (p : α → Bool) (a : α) (l : List α) :
    (a :: l).rdropWhile p =
      if l.rdropWhile p = [] then [a].rdropWhile p else a :: l.rdropWhile p := by
  induction l using List.reverseRecOn with
  | nil => rfl
  | append_singleton l x ih =>
    rw [← List.cons_append, List.rdropWhile_concat, List.rdropWhile_concat]
    split
    · exact ih
    · rw [if_neg (List.append_ne_nil_of_right_ne_nil l (List.cons_ne_nil x []))]
      rfl

theorem splitOn_injective {s t : Text} (h : s.splitOn ':' = t.splitOn ':') : s = t := by
  calc
    s = [':'].intercalate (s.splitOn ':') := (List.intercalate_splitOn ':').symm
    _ = [':'].intercalate (t.splitOn ':') := congrArg _ h
    _ = t := List.intercalate_splitOn ':'

theorem splitOn_append_colons {piece : Text} (h : ':' ∉ piece) (n : Nat) :
    (piece ++ List.replicate n ':').splitOn ':' = piece :: List.replicate n [] := by
  induction n generalizing piece with
  | zero => rw [List.replicate_zero, List.append_nil, List.splitOn_eq_singleton h]; rfl
  | succ n ih =>
    have hRest : (List.replicate n ':').splitOn ':' = [] :: List.replicate n [] :=
      ih List.not_mem_nil
    rw [List.replicate_succ, List.splitOn_append_cons_self_of_not_mem h, hRest,
      List.replicate_succ]

theorem not_mem_of_mem_splitOn {piece s : Text} (h : piece ∈ s.splitOn ':') : ':' ∉ piece := by
  induction s generalizing piece with
  | nil =>
    rw [List.splitOn_nil] at h
    rw [List.mem_singleton.mp h]
    exact List.not_mem_nil
  | cons c s ih =>
    rw [List.splitOn_cons_eq_if_modifyHead] at h
    by_cases hColon : (c == ':') = true
    · rw [if_pos hColon] at h
      rcases List.mem_cons.mp h with rfl | h
      · exact List.not_mem_nil
      · exact ih h
    · rw [if_neg hColon] at h
      cases hPieces : s.splitOn ':' with
      | nil => exact absurd hPieces (List.splitOn_ne_nil ':' s)
      | cons first rest =>
        rw [hPieces] at h ih
        rcases List.mem_cons.mp h with rfl | h
        · have hFirst : ':' ∉ first := ih List.mem_cons_self
          have hOther : ':' ≠ c := fun hEq => hColon (beq_iff_eq.mpr hEq.symm)
          simp only [List.mem_cons, not_or]
          exact ⟨hOther, hFirst⟩
        · exact ih (List.mem_cons_of_mem first h)

theorem splitOn_all_empty_iff (s : Text) :
    (s.splitOn ':').rdropWhile List.isEmpty = [] ↔ ∀ c ∈ s, c = ':' := by
  rw [List.rdropWhile_eq_nil_iff]
  constructor
  · intro hEmpty
    have hPieces : s.splitOn ':' = List.replicate (s.splitOn ':').length [] :=
      List.eq_replicate_of_mem fun piece hPiece => List.isEmpty_iff.mp (hEmpty piece hPiece)
    obtain ⟨n, hLength⟩ : ∃ n, (s.splitOn ':').length = n + 1 :=
      Nat.exists_eq_add_one.mpr (List.length_pos_iff.mpr (List.splitOn_ne_nil ':' s))
    rw [hLength, List.replicate_succ] at hPieces
    have hColons : s = List.replicate n ':' :=
      splitOn_injective (hPieces.trans (splitOn_append_colons List.not_mem_nil n).symm)
    intro c hc
    rw [hColons] at hc
    exact List.eq_of_mem_replicate hc
  · intro hColons piece hPiece
    rw [List.eq_replicate_of_mem hColons] at hPiece
    have hAll := splitOn_append_colons (List.not_mem_nil (a := ':')) s.length
    rw [List.nil_append] at hAll
    rw [hAll, ← List.replicate_succ] at hPiece
    rw [List.eq_of_mem_replicate hPiece]
    rfl

theorem splitOn_one_iff (s piece : Text) :
    (s.splitOn ':').rdropWhile List.isEmpty = [piece] ↔
      ':' ∉ piece ∧ piece ≠ [] ∧ ∃ n, s = piece ++ List.replicate n ':' := by
  constructor
  · intro hOne
    have hParts := List.rdropWhile_append_rtakeWhile (p := List.isEmpty) (l := s.splitOn ':')
    rw [hOne, List.singleton_append] at hParts
    have hMem : piece ∈ s.splitOn ':' := hParts ▸ List.mem_cons_self
    have hEmpty : (s.splitOn ':').rtakeWhile List.isEmpty =
        List.replicate ((s.splitOn ':').rtakeWhile List.isEmpty).length [] :=
      List.eq_replicate_of_mem fun q hq => List.isEmpty_iff.mp (List.mem_rtakeWhile_imp hq)
    rw [hEmpty] at hParts
    refine ⟨not_mem_of_mem_splitOn hMem, ?_, _, splitOn_injective
      (hParts.symm.trans (splitOn_append_colons (not_mem_of_mem_splitOn hMem) _).symm)⟩
    rintro rfl
    have hLast := List.rdropWhile_last_not List.isEmpty (s.splitOn ':') (by simp [hOne])
    simp [hOne] at hLast
  · rintro ⟨hPiece, hNonempty, n, rfl⟩
    rw [splitOn_append_colons hPiece, rdropWhile_cons, if_pos, List.rdropWhile_singleton, if_neg]
    · exact fun hEmpty => hNonempty (List.isEmpty_iff.mp hEmpty)
    · rw [List.rdropWhile_eq_nil_iff]
      intro q hq
      rw [List.eq_of_mem_replicate hq]
      rfl

theorem contains_colon_iff (s : Text) : contains s ":".toList = true ↔ ':' ∈ s := by
  induction s with
  | nil => exact iff_of_false (by decide) List.not_mem_nil
  | cons c s ih =>
    rw [contains, Bool.or_eq_true, ih, List.mem_cons]
    simp [List.isPrefixOf]

theorem split_of_no_colon {s : Text} (h : ':' ∉ s) : split s = [s] := if_neg h

theorem split_append {first rest : Text} (h : ':' ∉ first) :
    split (first ++ ':' :: rest) =
      if (rest.splitOn ':').rdropWhile List.isEmpty = [] then
        [first].rdropWhile List.isEmpty
      else first :: (rest.splitOn ':').rdropWhile List.isEmpty := by
  have hColon : ':' ∈ first ++ ':' :: rest := List.mem_append_right _ List.mem_cons_self
  rw [split, if_pos hColon, List.splitOn_append_cons_self_of_not_mem h, rdropWhile_cons]

theorem singleton_rdropWhile_ne (first a b : Text) (rest : List Text) :
    [first].rdropWhile List.isEmpty ≠ a :: b :: rest := by
  rw [List.rdropWhile_singleton]
  split
  · exact (List.cons_ne_nil _ _).symm
  · exact fun h => absurd (List.cons.inj h).2 (List.cons_ne_nil _ _).symm

theorem split_cons_cons {s a b : Text} {pieces : List Text} (h : split s = a :: b :: pieces) :
    ∃ rest, s = a ++ ':' :: rest ∧ ':' ∉ a ∧
      (rest.splitOn ':').rdropWhile List.isEmpty = b :: pieces := by
  have hColon : ':' ∈ s := by
    by_contra hNone
    rw [split_of_no_colon hNone] at h
    exact absurd (List.cons.inj h).2 (List.cons_ne_nil b pieces).symm
  obtain ⟨first, rest, rfl, hFirst⟩ := List.eq_append_cons_of_mem hColon
  rw [split_append hFirst] at h
  split at h
  · exact absurd h (singleton_rdropWhile_ne first a b pieces)
  · obtain ⟨rfl, hPieces⟩ := List.cons.inj h
    exact ⟨rest, rfl, hFirst, hPieces⟩

theorem split_eq_two_iff (s a b : Text) :
    split s = [a, b] ↔
      ':' ∉ a ∧ ':' ∉ b ∧ b ≠ [] ∧ ∃ n, s = a ++ ':' :: (b ++ List.replicate n ':') := by
  constructor
  · intro hSplit
    obtain ⟨rest, rfl, ha, hOne⟩ := split_cons_cons hSplit
    obtain ⟨hb, hNonempty, n, rfl⟩ := (splitOn_one_iff rest b).mp hOne
    exact ⟨ha, hb, hNonempty, n, rfl⟩
  · rintro ⟨ha, hb, hNonempty, n, rfl⟩
    have hOne := (splitOn_one_iff (b ++ List.replicate n ':') b).mpr ⟨hb, hNonempty, n, rfl⟩
    rw [split_append ha, hOne, if_neg (List.cons_ne_nil b [])]

theorem split_second_iff (s : Text) :
    (∃ a b rest, split s = a :: b :: rest) ↔
      ∃ a rest, s = a ++ ':' :: rest ∧ ':' ∉ a ∧ ∃ c ∈ rest, c ≠ ':' := by
  constructor
  · rintro ⟨a, b, pieces, hSplit⟩
    obtain ⟨rest, rfl, ha, hPieces⟩ := split_cons_cons hSplit
    refine ⟨a, rest, rfl, ha, ?_⟩
    by_contra hAll
    push Not at hAll
    rw [(splitOn_all_empty_iff rest).mpr hAll] at hPieces
    exact List.cons_ne_nil b pieces hPieces.symm
  · rintro ⟨a, rest, rfl, ha, c, hc, hOther⟩
    have hSome : (rest.splitOn ':').rdropWhile List.isEmpty ≠ [] := by
      intro hNone
      exact hOther ((splitOn_all_empty_iff rest).mp hNone c hc)
    obtain ⟨b, pieces, hPieces⟩ := List.exists_cons_of_ne_nil hSome
    exact ⟨a, b, pieces, by rw [split_append ha, if_neg hSome, hPieces]⟩

end LocalCall.Java
