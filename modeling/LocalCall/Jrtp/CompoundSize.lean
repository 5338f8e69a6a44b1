import LocalCall.Jrtp.CompoundRoundTrip

/-! # The maximum size of a compound packet

`NeededBytesWithExtraSource` needs nothing for the first source, which takes 12 bytes. `EndBuild`
writes all of the packet into the buffer that it was given, and such a packet ends behind it.
-/
namespace LocalCall.Jrtp
set_option autoImplicit false

open Transition

theorem addSDESSource_first {b : RTCPCompoundPacketBuilder} (ssrc : BitVec 32)
    (hBuilding : b.arebuilding = true) (hNone : b.sdes = [])
    (hFits : b.totalSize ≤ b.maximumpacketsize) :
    b.addSDESSource ssrc = .ok { b with sdes := SDES.addSSRC ssrc b.sdes } := by
  have hUncounted : SDES.neededBytesWithExtraSource b.sdes = 0 := by
    rw [hNone]
    rfl
  have hNothing : SDES.neededBytes b.sdes = 0 := by
    rw [hNone]
    rfl
  unfold RTCPCompoundPacketBuilder.totalSize at hFits
  unfold RTCPCompoundPacketBuilder.addSDESSource
  dsimp only
  rw [hUncounted, if_neg (by simp [hBuilding]), if_neg (by omega)]

namespace CompoundTrace

/-- Neither what `EndBuild` would write now nor what it wrote is longer than the maximum. -/
def Within (t : CompoundTrace) : Prop :=
  t.builder.totalSize ≤ t.builder.maximumpacketsize ∧
    ∀ data, t.builder.compoundpacket = some data → data.length ≤ t.builder.maximumpacketsize

/-- The first source is added while the 12 bytes are left that it takes. -/
def LeavesRoom (t : CompoundTrace) (c : CompoundCall) : Prop :=
  ∀ ssrc, c = .addSDESSource ssrc → t.builder.arebuilding = true → t.builder.sdes = [] →
    t.builder.totalSize + 12 ≤ t.builder.maximumpacketsize

theorem leavesRoom_of_other {t : CompoundTrace} {c : CompoundCall}
    (h : t.builder.sdes ≠ [] ∨ ∀ ssrc, c ≠ .addSDESSource ssrc) : t.LeavesRoom c := by
  intro ssrc hCall _ hFirst
  rcases h with hSome | hOther
  · exact absurd hFirst hSome
  · exact absurd hCall (hOther ssrc)

structure SizeInv (t : CompoundTrace) : Prop where
  hInv : t.Inv
  hMax : t.builder.maximumpacketsize < 2 ^ 32

theorem SizeInv.step {t t' : CompoundTrace} {c : CompoundCall} (h : t.SizeInv)
    (hStep : t.step c = some t') : t'.SizeInv := by
  refine ⟨h.hInv.step hStep, ?_⟩
  unfold CompoundTrace.step at hStep
  split at hStep
  · cases hStep
    exact h.hMax
  rename_i b hPerform
  cases hStep
  change b.maximumpacketsize < 2 ^ 32
  rcases perform_cases hPerform with
    ⟨-, hAdds⟩ | ⟨external, size, rfl, hInit⟩ | ⟨rfl, hEnd⟩
  · rw [hAdds.same.2.2]
    exact h.hMax
  · obtain ⟨-, -, -, rfl⟩ := initBuild_cases hInit
    exact size.isLt
  · obtain ⟨-, -, rfl⟩ := endBuild_cases hEnd
    exact h.hMax

theorem SizeInv.within_adds_iff {t : CompoundTrace} {b : RTCPCompoundPacketBuilder}
    {c : CompoundCall} (h : t.SizeInv) (hWithin : t.Within)
    (hBuilding : t.builder.arebuilding = true) (hAdds : Adds t.builder c b) :
    Within ⟨b, t.gathered.add c⟩ ↔ t.LeavesRoom c := by
  obtain ⟨-, hPacket, hMax⟩ := hAdds.same
  have hNone := h.hInv.hBuilding hBuilding
  have hSize : Within ⟨b, t.gathered.add c⟩ ↔ b.totalSize ≤ t.builder.maximumpacketsize := by
    unfold Within
    dsimp only
    rw [hPacket, hNone, hMax]
    exact and_iff_left (by rintro _ ⟨⟩)
  rw [hSize]
  rcases hAdds.totalSize (h.hInv.hHolds hNone) with
    ⟨⟨ssrc, rfl⟩, hFirst, -, -, hTotal⟩ | ⟨hOther, -, -, -, hFits⟩ | ⟨hOther, hFits⟩
  · rw [hTotal]
    constructor
    · intro hRoom _ _ _ _
      exact hRoom
    · intro hRoom
      exact hRoom ssrc rfl hBuilding hFirst
  · exact iff_of_true (hFits hWithin.1 h.hMax) (leavesRoom_of_other hOther)
  · exact iff_of_true hFits (leavesRoom_of_other hOther)

/-- The first source alone makes a packet too long. -/
theorem within_step_iff {t t' : CompoundTrace} {c : CompoundCall} (h : t.SizeInv)
    (hWithin : t.Within) (hStep : t.step c = some t') : t'.Within ↔ t.LeavesRoom c := by
  unfold CompoundTrace.step at hStep
  split at hStep
  · rename_i e hPerform
    cases hStep
    refine iff_of_true hWithin ?_
    -- a first source is never refused
    rintro ssrc rfl hBuilding hNone
    have hAdded := addSDESSource_first ssrc hBuilding hNone hWithin.1
    have hRefused : t.builder.addSDESSource ssrc = .error e := hPerform
    rw [hAdded] at hRefused
    cases hRefused
  rename_i b hPerform
  cases hStep
  rcases perform_cases hPerform with
    ⟨hBuilding, hAdds⟩ | ⟨external, size, rfl, hInit⟩ | ⟨rfl, hEnd⟩
  · exact h.within_adds_iff hWithin hBuilding hAdds
  · obtain ⟨hBuilding, hNone, -, hAfter⟩ := initBuild_cases hInit
    have hStarted := h.hInv.initBuild hInit
    have hPacket : b.compoundpacket = none := by rw [hAfter, hNone]
    have hGathered : t.gathered.add (.initBuild external size) = .new :=
      h.hInv.hIdle hNone hBuilding
    have hTotal : b.totalSize = 0 := by
      have hHolds := hStarted.hHolds hPacket
      rw [hGathered] at hHolds
      exact hHolds.totalSize_new
    refine iff_of_true ⟨?_, ?_⟩ (leavesRoom_of_other (.inr (by rintro _ ⟨⟩)))
    · change b.totalSize ≤ _
      rw [hTotal]
      exact Nat.zero_le _
    · intro data hData
      change b.compoundpacket = some data at hData
      rw [hPacket] at hData
      cases hData
  · obtain ⟨hBuilding, hStarted, rfl⟩ := endBuild_cases hEnd
    refine iff_of_true ⟨Nat.zero_le _, ?_⟩ (leavesRoom_of_other (.inr (by rintro _ ⟨⟩)))
    intro data hData
    have hPackets : data = (builtPackets t.builder).flatten := (Option.some.inj hData).symm
    have hHolds := h.hInv.hHolds (h.hInv.hBuilding hBuilding)
    rw [hPackets, hHolds.length_builtPackets hStarted]
    exact hWithin.1

theorem always_within_iff (cs : List CompoundCall) :
    Always step Within new cs ↔ Meets step LeavesRoom new cs := by
  have hNew : SizeInv new := ⟨inv_new, by decide⟩
  refine always_iff_meets (fun h _ hStep _ => h.step hStep) within_step_iff hNew ⟨Nat.le_refl _, ?_⟩
  rintro _ ⟨⟩

-- a receiver report with 24 blocks takes 584 bytes, and two packets that name no source 4 each
example : (run step new ([.initBuild true 600, .startReceiverReport 0] ++
      List.replicate 24 (.addReportBlock 0 0 0 0 0 0 0) ++
        List.replicate 2 (.addBYEPacket [] ⟨[], by decide⟩) ++ [.addSDESSource 0, .endBuild])).map
    (fun t => (t.builder.compoundpacketlength, t.builder.maximumpacketsize)) = some (604, 600) := by
  decide

end CompoundTrace

end LocalCall.Jrtp
