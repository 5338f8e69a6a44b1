import LocalCall.Jrtp.RtcpPacket
import LocalCall.Jrtp.Sources

/-! # Source descriptions

The constructor of `rtcpsdespacket.cpp` walks over the chunks with the number of bytes left, and the
iteration of `rtcpsdespacket.h` walks over them again without it. The one accepts exactly the rows of
chunks, and then the other meets these chunks and stays inside of the packet.
-/
namespace LocalCall.Jrtp
set_option autoImplicit false

open Piece

/-- `currentchunk` is an offset into the packet, none for NULL. -/
structure RTCPSDESPacket where
  data : List UInt8
  knownformat : Bool
  currentchunk : Option Nat
  curchunknum : Nat
  itemoffset : Nat

namespace RTCPSDESPacket

/-- The walk over the items of a chunk: the bytes left and the length of the chunk. -/
def itemLoop (data : List UInt8) (chunk len chunkoffset : Nat) : Except Stop (Nat × Nat) :=
  if len < 1 then .error .unknownFormat
  else
    match data[chunk + chunkoffset]? with
    | none => .error .outside
    | some sdesid =>
      if sdesid = 0 then
        let r := (chunkoffset + 1) % 4
        if r ≠ 0 then
          if len - 1 < 4 - r then .error .unknownFormat
          else .ok (len - 1 - (4 - r), chunkoffset + 1 + (4 - r))
        else .ok (len - 1, chunkoffset + 1)
      else if len < 2 then .error .unknownFormat
      else
        match data[chunk + chunkoffset + 1]? with
        | none => .error .outside
        | some itemlen =>
          if len - 2 < itemlen.toNat then .error .unknownFormat
          else itemLoop data chunk (len - 2 - itemlen.toNat) (chunkoffset + 2 + itemlen.toNat)
termination_by len

def chunkLoop (data : List UInt8) : Nat → Nat → Nat → Except Stop (Nat × Nat)
  | 0, _, len => .ok (0, len)
  | ssrccount + 1, chunk, len =>
    if len = 0 then .ok (ssrccount + 1, len)
    else if len < 8 then .error .unknownFormat
    else
      match itemLoop data chunk (len - 4) 4 with
      | .error e => .error e
      | .ok (len, chunkoffset) => chunkLoop data ssrccount (chunk + chunkoffset) len

def check (data : List UInt8) (hdr : RTCPCommonHeader) (len : Nat) : Except Stop Unit :=
  if hdr.count.toNat = 0 then
    if len ≠ 4 then .error .unknownFormat else .ok ()
  else if len < 4 then .error .unknownFormat
  else
    match chunkLoop data hdr.count.toNat 4 (len - 4) with
    | .error e => .error e
    | .ok (ssrccount, len) =>
      if 0 < len then .error .unknownFormat
      else if 0 < ssrccount then .error .unknownFormat
      else .ok ()

/-! ## The chunks -/

/-- An item carries the number of its type, which is not the zero that ends a list of items. -/
structure Item where
  sdesid : UInt8
  itemdata : List UInt8
  hId : sdesid ≠ 0
  hLength : itemdata.length < 256

def Item.write (i : Item) : List UInt8 :=
  i.sdesid :: UInt8.ofNat i.itemdata.length :: i.itemdata

def alignment (n : Nat) : Nat := (4 - n % 4) % 4

def writeItems (items : List Item) : List UInt8 := items.flatMap Item.write

/-- What the bytes behind the end of the items are is not looked at. -/
structure Chunk where
  ssrc : BitVec 32
  items : List Item
  align : List UInt8
  hAlign : align.length = alignment ((writeItems items).length + 1)

def Chunk.write (c : Chunk) : List UInt8 :=
  word32.write c.ssrc ++ (writeItems c.items ++ 0 :: c.align)

def writeChunks (chunks : List Chunk) : List UInt8 := chunks.flatMap Chunk.write

theorem Item.length_write (i : Item) : i.write.length = 2 + i.itemdata.length := by
  change i.itemdata.length + 1 + 1 = _
  omega

theorem Item.toNat_length (i : Item) :
    (UInt8.ofNat i.itemdata.length).toNat = i.itemdata.length :=
  UInt8.toNat_ofNat_of_lt i.hLength

theorem Chunk.length_write (c : Chunk) :
    c.write.length = 4 + ((writeItems c.items).length + 1 + c.align.length) := by
  rw [Chunk.write, List.length_append, List.length_append, List.length_cons, word32.length_write]
  change 4 + _ = _
  omega

theorem Chunk.length_write_mod (c : Chunk) : c.write.length % 4 = 0 := by
  rw [c.length_write, c.hAlign, alignment]
  omega

theorem Chunk.eight_le (c : Chunk) : 8 ≤ c.write.length := by
  rw [c.length_write, c.hAlign, alignment]
  omega

/-! ## The constructor -/

theorem itemLoop_ne_outside {data : List UInt8} {chunk len chunkoffset : Nat}
    (h : chunk + chunkoffset + len ≤ data.length) :
    itemLoop data chunk len chunkoffset ≠ .error .outside := by
  fun_induction itemLoop data chunk len chunkoffset with
  | case2 len chunkoffset hLen hNone =>
    rw [List.getElem?_eq_none_iff] at hNone
    omega
  | case7 len chunkoffset hLen sdesid hByte hId hTwo hNone =>
    rw [List.getElem?_eq_none_iff] at hNone
    omega
  | case9 len chunkoffset hLen sdesid hByte hId hTwo itemlen hByte' hShort ih =>
    exact ih (by omega)
  | _ => rintro ⟨⟩

/-- The items that the loop has come by. -/
theorem itemLoop_ok {data : List UInt8} {chunk len chunkoffset len' off' : Nat}
    (hInside : chunk + chunkoffset + len ≤ data.length)
    (h : itemLoop data chunk len chunkoffset = .ok (len', off')) :
    ∃ items align, align.length = alignment (chunkoffset + ((writeItems items).length + 1)) ∧
      At data (chunk + chunkoffset) (writeItems items ++ 0 :: align) ∧
      off' = chunkoffset + ((writeItems items).length + 1 + align.length) ∧
      len = (writeItems items).length + 1 + align.length + len' := by
  fun_induction itemLoop data chunk len chunkoffset with
  | case4 len chunkoffset hLen r hr hEnough hByte =>
    cases h
    have hHere : chunk + chunkoffset + 1 + (4 - r) ≤ data.length := by omega
    obtain ⟨align, hLength, hAt⟩ := slice_of_le hHere
    refine ⟨[], align, ?_, ?_, ?_, ?_⟩
    · rw [hLength, alignment]
      change _ = (4 - (chunkoffset + 1) % 4) % 4
      omega
    · exact at_cons_iff.mpr ⟨hByte, hAt⟩
    · rw [hLength]
      change _ = chunkoffset + (0 + 1 + _)
      omega
    · rw [hLength]
      change _ = 0 + 1 + _ + _
      omega
  | case5 len chunkoffset hLen r hr hByte =>
    cases h
    refine ⟨[], [], ?_, ?_, ?_, ?_⟩
    · rw [alignment]
      change 0 = (4 - (chunkoffset + 1) % 4) % 4
      omega
    · have hHere : chunk + chunkoffset + 1 ≤ data.length := by omega
      exact at_cons_iff.mpr ⟨hByte, at_nil_iff.mpr hHere⟩
    · rfl
    · change _ = 0 + 1 + 0 + _
      omega
  | case9 len chunkoffset hLen sdesid hByte hId hTwo itemlen hByte' hShort ih =>
    obtain ⟨items, align, hAlign, hAt, hOff, hLen'⟩ := ih (by omega) h
    have hHere : chunk + chunkoffset + 2 + itemlen.toNat ≤ data.length := by omega
    obtain ⟨itemdata, hLength, hData⟩ := slice_of_le hHere
    have hItemLen : UInt8.ofNat itemdata.length = itemlen := by
      rw [hLength, UInt8.ofNat_toNat]
    have hSmall : itemdata.length < 256 := by
      rw [hLength]
      exact itemlen.toNat_lt
    have hItems : writeItems (⟨sdesid, itemdata, hId, hSmall⟩ :: items) =
        sdesid :: itemlen :: (itemdata ++ writeItems items) := by
      rw [writeItems, List.flatMap_cons, Item.write, hItemLen]
      rfl
    have hCount : (writeItems (⟨sdesid, itemdata, hId, hSmall⟩ :: items)).length =
        2 + itemlen.toNat + (writeItems items).length := by
      rw [hItems, List.length_cons, List.length_cons, List.length_append, hLength]
      omega
    refine ⟨⟨sdesid, itemdata, hId, hSmall⟩ :: items, align, ?_, ?_, ?_, ?_⟩
    · rw [hAlign, hCount]
      congr 1
      omega
    · rw [hItems, List.cons_append, List.cons_append, at_cons_iff, at_cons_iff,
        List.append_assoc, at_append_iff, hLength]
      refine ⟨hByte, hByte', hData, ?_⟩
      have hPlace : chunk + chunkoffset + 1 + 1 + itemlen.toNat =
          chunk + (chunkoffset + 2 + itemlen.toNat) := by omega
      rwa [hPlace]
    · rw [hCount]
      omega
    · rw [hCount]
      omega
  | _ => cases h

theorem writeItems_cons (i : Item) (items : List Item) : writeItems (i :: items) =
    i.sdesid :: UInt8.ofNat i.itemdata.length :: (i.itemdata ++ writeItems items) := rfl

theorem at_item {data rest : List UInt8} {n : Nat} {i : Item} {items : List Item}
    (h : At data n (writeItems (i :: items) ++ rest)) :
    data[n]? = some i.sdesid ∧ data[n + 1]? = some (UInt8.ofNat i.itemdata.length) ∧
      At data (n + 2) i.itemdata ∧
      At data (n + 2 + i.itemdata.length) (writeItems items ++ rest) := by
  rw [writeItems_cons, List.cons_append, List.cons_append, List.append_assoc, at_cons_iff,
    at_cons_iff, at_append_iff] at h
  exact h

theorem itemLoop_of_at {data align : List UInt8} {items : List Item} {chunk chunkoffset : Nat}
    (len : Nat) (hAlign : align.length = alignment (chunkoffset + ((writeItems items).length + 1)))
    (hAt : At data (chunk + chunkoffset) (writeItems items ++ 0 :: align)) :
    itemLoop data chunk ((writeItems items).length + 1 + align.length + len) chunkoffset =
      .ok (len, chunkoffset + ((writeItems items).length + 1 + align.length)) := by
  induction items generalizing chunkoffset with
  | nil =>
    have hByte := (at_cons_iff.mp hAt).1
    change align.length = (4 - (chunkoffset + 1) % 4) % 4 at hAlign
    change itemLoop data chunk (0 + 1 + align.length + len) chunkoffset =
      .ok (len, chunkoffset + (0 + 1 + align.length))
    rw [itemLoop, if_neg (by omega), hByte]
    dsimp only
    rw [if_pos rfl]
    split
    · rename_i hr
      rw [if_neg (by omega)]
      congr 2 <;> omega
    · rename_i hr
      congr 2 <;> omega
  | cons i items ih =>
    obtain ⟨hId, hLength, -, hRest⟩ := at_item hAt
    have hCount : (writeItems (i :: items)).length =
        2 + i.itemdata.length + (writeItems items).length := by
      rw [writeItems_cons, List.length_cons, List.length_cons, List.length_append]
      omega
    have hPlace : chunk + chunkoffset + 2 + i.itemdata.length =
        chunk + (chunkoffset + 2 + i.itemdata.length) := by omega
    rw [hPlace] at hRest
    have hAlign' : align.length =
        alignment (chunkoffset + 2 + i.itemdata.length + ((writeItems items).length + 1)) := by
      rw [hAlign, hCount]
      congr 1
      omega
    have hStep := ih hAlign' hRest
    rw [itemLoop, if_neg (by omega), hId]
    dsimp only
    rw [if_neg i.hId, if_neg (by omega), hLength]
    dsimp only
    rw [i.toNat_length, if_neg (by omega)]
    have hLeft : (writeItems (i :: items)).length + 1 + align.length + len - 2 -
        i.itemdata.length = (writeItems items).length + 1 + align.length + len := by omega
    rw [hLeft, hStep]
    congr 2
    omega

theorem alignment_add_four (n : Nat) : alignment (4 + n) = alignment n := by
  unfold alignment
  omega

theorem chunkLoop_ne_outside {data : List UInt8} {ssrccount chunk len : Nat}
    (h : chunk + len ≤ data.length) : chunkLoop data ssrccount chunk len ≠ .error .outside := by
  induction ssrccount generalizing chunk len with
  | zero => rintro ⟨⟩
  | succ ssrccount ih =>
    rw [chunkLoop]
    split
    · rintro ⟨⟩
    split
    · rintro ⟨⟩
    have hInside : chunk + 4 + (len - 4) ≤ data.length := by omega
    split
    · rename_i e hItems
      rintro ⟨⟩
      exact itemLoop_ne_outside hInside hItems
    · rename_i len' chunkoffset hItems
      obtain ⟨items, align, -, -, hOff, hLen⟩ := itemLoop_ok hInside hItems
      exact ih (by omega)

theorem chunkLoop_ok {data : List UInt8} {ssrccount chunk len : Nat}
    (hInside : chunk + len ≤ data.length)
    (h : chunkLoop data ssrccount chunk len = .ok (0, 0)) :
    ∃ chunks, chunks.length = ssrccount ∧ At data chunk (writeChunks chunks) ∧
      len = (writeChunks chunks).length := by
  induction ssrccount generalizing chunk len with
  | zero =>
    cases h
    exact ⟨[], rfl, at_nil_iff.mpr (by omega), rfl⟩
  | succ ssrccount ih =>
    rw [chunkLoop] at h
    split at h
    · cases h
    split at h
    · cases h
    rename_i hEmpty hEight
    have hItemsInside : chunk + 4 + (len - 4) ≤ data.length := by omega
    split at h
    · cases h
    rename_i len' chunkoffset hItems
    obtain ⟨items, align, hAlign, hAt, hOff, hLen⟩ := itemLoop_ok hItemsInside hItems
    obtain ⟨chunks, hCount, hChunks, hRest⟩ := ih (by omega) h
    rw [alignment_add_four] at hAlign
    have hHere : chunk + word32.size ≤ data.length := by
      change chunk + 4 ≤ _
      omega
    obtain ⟨ssrc, hSsrc⟩ := word32.read_of_le hHere
    rw [Record.read_eq_some_iff] at hSsrc
    have hLength := Chunk.length_write ⟨ssrc, items, align, hAlign⟩
    refine ⟨⟨ssrc, items, align, hAlign⟩ :: chunks, congrArg (· + 1) hCount, ?_, ?_⟩
    · rw [writeChunks, List.flatMap_cons, at_append_iff, Chunk.write, at_append_iff]
      refine ⟨⟨hSsrc, ?_⟩, ?_⟩
      · rw [word32.length_write]
        exact hAt
      · rw [Chunk.write] at hLength
        rw [hLength, ← hOff]
        exact hChunks
    · rw [writeChunks, List.flatMap_cons, List.length_append, hLength]
      change _ = _ + (writeChunks chunks).length
      dsimp only
      omega

theorem chunkLoop_of_at {data : List UInt8} {chunks : List Chunk} {chunk : Nat}
    (h : At data chunk (writeChunks chunks)) :
    chunkLoop data chunks.length chunk (writeChunks chunks).length = .ok (0, 0) := by
  induction chunks generalizing chunk with
  | nil => rfl
  | cons c chunks ih =>
    rw [writeChunks, List.flatMap_cons, at_append_iff] at h
    obtain ⟨hHere, hRest⟩ := h
    rw [Chunk.write, at_append_iff] at hHere
    have hAlign := c.hAlign
    rw [← alignment_add_four] at hAlign
    have hItems := itemLoop_of_at (writeChunks chunks).length hAlign hHere.2
    have hLength := c.length_write
    have hEight := c.eight_le
    have hSize : (writeChunks (c :: chunks)).length =
        c.write.length + (writeChunks chunks).length := by
      rw [writeChunks, List.flatMap_cons, List.length_append]
      rfl
    have hLeft : (writeChunks (c :: chunks)).length - 4 =
        (writeItems c.items).length + 1 + c.align.length + (writeChunks chunks).length := by
      omega
    rw [List.length_cons, chunkLoop, if_neg (by omega), if_neg (by omega),
      hLeft, hItems]
    dsimp only
    rw [← hLength]
    exact ih hRest

theorem four_le_of_check {data : List UInt8} {hdr : RTCPCommonHeader} {len : Nat}
    (h : check data hdr len = .ok ()) : 4 ≤ len := by
  unfold check at h
  split at h
  · split at h
    · cases h
    · omega
  · split at h
    · cases h
    · omega

theorem check_ne_outside {data : List UInt8} {hdr : RTCPCommonHeader} {len : Nat}
    (h : len ≤ data.length) : check data hdr len ≠ .error .outside := by
  unfold check
  split
  · split <;> rintro ⟨⟩
  split
  · rintro ⟨⟩
  have hInside : 4 + (len - 4) ≤ data.length := by omega
  split
  · rename_i e hChunks
    rintro ⟨⟩
    exact chunkLoop_ne_outside hInside hChunks
  · repeat' split
    all_goals rintro ⟨⟩

/-- The constructor accepts the rows of chunks in the number of the header. -/
theorem check_eq_ok_iff {data body pad : List UInt8} {hdr : RTCPCommonHeader}
    (hLayout : Layout hdr body pad data) : check data hdr (4 + body.length) = .ok () ↔
      ∃ chunks, chunks.length = hdr.count.toNat ∧ body = writeChunks chunks := by
  have hInside : 4 + body.length ≤ data.length := by
    rw [hLayout.length]
    exact Nat.le_add_right _ _
  constructor
  · intro h
    unfold check at h
    split at h
    · rename_i hZero
      split at h
      · cases h
      rename_i hLen
      refine ⟨[], hZero.symm, ?_⟩
      exact List.length_eq_zero_iff.mp (by omega)
    split at h
    · cases h
    rw [Nat.add_sub_cancel_left] at h
    split at h
    · cases h
    rename_i ssrccount len hLoop
    split at h
    · cases h
    split at h
    · cases h
    rename_i hLen hCount
    rw [Nat.eq_zero_of_not_pos hCount, Nat.eq_zero_of_not_pos hLen] at hLoop
    obtain ⟨chunks, hLength, hAt, hSize⟩ := chunkLoop_ok hInside hLoop
    exact ⟨chunks, hLength, hLayout.body_at.unique hAt hSize⟩
  · rintro ⟨chunks, hLength, rfl⟩
    have hLoop := chunkLoop_of_at hLayout.body_at
    unfold check
    split
    · rename_i hZero
      rw [hZero, List.length_eq_zero_iff] at hLength
      rw [hLength, if_neg (by decide)]
    rw [if_neg (by omega), Nat.add_sub_cancel_left, ← hLength, hLoop]
    rfl

/-! ## The iteration -/

def getChunkCount (p : RTCPSDESPacket) : Option Nat :=
  if p.knownformat then (RTCPCommonHeader.record.read p.data 0).map fun hdr => hdr.count.toNat
  else some 0

def gotoFirstChunk (p : RTCPSDESPacket) : Option (RTCPSDESPacket × Bool) :=
  match p.getChunkCount with
  | none => none
  | some 0 => some ({ p with currentchunk := none }, false)
  | some _ => some ({ p with currentchunk := some 4, curchunknum := 1, itemoffset := 4 }, true)

/-- The loop of `GotoNextChunk`, which stops at a zero only. -/
def itemsEnd (data : List UInt8) (chunk offset : Nat) : Option Nat :=
  match _hByte : data[chunk + offset]? with
  | none => none
  | some sdesid =>
    if sdesid = 0 then some offset
    else
      match data[chunk + offset + 1]? with
      | none => none
      | some length => itemsEnd data chunk (offset + 2 + length.toNat)
termination_by data.length - (chunk + offset)
decreasing_by
  obtain ⟨hInside, -⟩ := List.getElem?_eq_some_iff.mp _hByte
  omega

def gotoNextChunk (p : RTCPSDESPacket) : Option (RTCPSDESPacket × Bool) :=
  if !p.knownformat then some (p, false)
  else
    match p.currentchunk with
    | none => some (p, false)
    | some chunk =>
      match p.getChunkCount with
      | none => none
      | some count =>
        if p.curchunknum = count then some (p, false)
        else
          match itemsEnd p.data chunk 4 with
          | none => none
          | some offset =>
            let r := (offset + 1) % 4
            let offset := if r ≠ 0 then offset + 1 + (4 - r) else offset + 1
            some ({ p with
              currentchunk := some (chunk + offset)
              curchunknum := p.curchunknum + 1
              itemoffset := 4 }, true)

def getChunkSSRC (p : RTCPSDESPacket) : Option (BitVec 32) :=
  if !p.knownformat then some 0
  else
    match p.currentchunk with
    | none => some 0
    | some chunk => word32.read p.data chunk

def gotoFirstItem (p : RTCPSDESPacket) : Option (RTCPSDESPacket × Bool) :=
  if !p.knownformat then some (p, false)
  else
    match p.currentchunk with
    | none => some (p, false)
    | some chunk =>
      (p.data[chunk + 4]?).map fun sdesid => ({ p with itemoffset := 4 }, decide (sdesid ≠ 0))

def gotoNextItem (p : RTCPSDESPacket) : Option (RTCPSDESPacket × Bool) :=
  if !p.knownformat then some (p, false)
  else
    match p.currentchunk with
    | none => some (p, false)
    | some chunk =>
      match p.data[chunk + p.itemoffset]? with
      | none => none
      | some sdesid =>
        if sdesid = 0 then some (p, false)
        else
          match p.data[chunk + p.itemoffset + 1]? with
          | none => none
          | some length =>
            let offset := p.itemoffset + 2 + length.toNat
            match p.data[chunk + offset]? with
            | none => none
            | some sdesid =>
              if sdesid = 0 then some (p, false) else some ({ p with itemoffset := offset }, true)

/-- `None` is none. -/
def itemType (sdesid : UInt8) : Option SDESType :=
  match sdesid.toNat with
  | 0 => none
  | 1 => some (.item .cname)
  | 2 => some (.item .name)
  | 3 => some (.item .email)
  | 4 => some (.item .phone)
  | 5 => some (.item .location)
  | 6 => some (.item .tool)
  | 7 => some (.item .note)
  | 8 => some .priv
  | _ => some .unknown

def getItemType (p : RTCPSDESPacket) : Option (Option SDESType) :=
  if !p.knownformat then some none
  else
    match p.currentchunk with
    | none => some none
    | some chunk => (p.data[chunk + p.itemoffset]?).map itemType

def getItemLength (p : RTCPSDESPacket) : Option Nat :=
  if !p.knownformat then some 0
  else
    match p.currentchunk with
    | none => some 0
    | some chunk =>
      match p.data[chunk + p.itemoffset]? with
      | none => none
      | some sdesid =>
        if sdesid = 0 then some 0 else (p.data[chunk + p.itemoffset + 1]?).map UInt8.toNat

/-- The offset of the data, none for NULL. -/
def getItemData (p : RTCPSDESPacket) : Option (Option Nat) :=
  if !p.knownformat then some none
  else
    match p.currentchunk with
    | none => some none
    | some chunk =>
      (p.data[chunk + p.itemoffset]?).map fun sdesid =>
        if sdesid = 0 then none else some (chunk + p.itemoffset + 2)

/-- What `ProcessSDESNormalItem` is called with, and what it reads. There `None` is one of the types
that are not known. -/
def getItem (p : RTCPSDESPacket) : Option (SDESType × List UInt8) :=
  match p.getItemType, p.getItemLength, p.getItemData with
  | some t, some _, some none => some (t.getD .unknown, [])
  | some t, some itemlength, some (some itemdata) =>
    (slice p.data itemdata itemlength).map fun bytes => (t.getD .unknown, bytes)
  | _, _, _ => none

theorem gotoNextItem_true {p q : RTCPSDESPacket} (h : p.gotoNextItem = some (q, true)) :
    p.itemoffset < p.data.length ∧ p.itemoffset < q.itemoffset ∧
      q = { p with itemoffset := q.itemoffset } := by
  unfold gotoNextItem at h
  split at h
  · cases h
  split at h
  · cases h
  rename_i chunk hChunk
  split at h
  · cases h
  rename_i sdesid hByte
  split at h
  · cases h
  split at h
  · cases h
  rename_i length hLength
  dsimp only at h
  split at h
  · cases h
  split at h
  · cases h
  cases h
  obtain ⟨hInside, -⟩ := List.getElem?_eq_some_iff.mp hByte
  refine ⟨by omega, ?_, rfl⟩
  change p.itemoffset < p.itemoffset + 2 + length.toNat
  omega

theorem gotoNextItem_false {p q : RTCPSDESPacket} (h : p.gotoNextItem = some (q, false)) :
    q = p := by
  unfold gotoNextItem at h
  split at h
  · cases h
    rfl
  split at h
  · cases h
    rfl
  split at h
  · cases h
  split at h
  · cases h
    rfl
  split at h
  · cases h
  dsimp only at h
  split at h
  · cases h
  split at h <;> cases h
  rfl

/-- `do ... while (GotoNextItem())`. -/
def itemWalk (p : RTCPSDESPacket) : Option (RTCPSDESPacket × List (SDESType × List UInt8)) :=
  match p.getItem with
  | none => none
  | some item =>
    match _hNext : p.gotoNextItem with
    | none => none
    | some (q, false) => some (q, [item])
    | some (q, true) => (itemWalk q).map fun x => (x.1, item :: x.2)
termination_by p.data.length - p.itemoffset
decreasing_by
  obtain ⟨hInside, hLess, hEq⟩ := gotoNextItem_true _hNext
  have hData : q.data = p.data := by rw [hEq]
  rw [hData]
  omega

def chunkItems (p : RTCPSDESPacket) : Option (RTCPSDESPacket × List (SDESType × List UInt8)) :=
  match p.gotoFirstItem with
  | none => none
  | some (q, false) => some (q, [])
  | some (q, true) => q.itemWalk

theorem itemWalk_step {p q : RTCPSDESPacket} {item : SDESType × List UInt8} {more : Bool}
    (hItem : p.getItem = some item) (hNext : p.gotoNextItem = some (q, more)) :
    p.itemWalk =
      if more then q.itemWalk.map fun x => (x.1, item :: x.2) else some (q, [item]) := by
  rw [itemWalk, hItem]
  dsimp only
  split
  all_goals
    rename_i h
    rw [hNext] at h
    cases h
  all_goals rfl

theorem itemWalk_frame {p q : RTCPSDESPacket} {items : List (SDESType × List UInt8)}
    (h : p.itemWalk = some (q, items)) : q = { p with itemoffset := q.itemoffset } := by
  fun_induction itemWalk p generalizing q items with
  | case1 => cases h
  | case2 => cases h
  | case3 p item hItem r hNext =>
    cases h
    rw [gotoNextItem_false hNext]
  | case4 p item hItem r hNext ih =>
    obtain ⟨⟨q', items'⟩, hWalk, hEq⟩ := Option.map_eq_some_iff.mp h
    cases hEq
    obtain ⟨-, -, hStep⟩ := gotoNextItem_true hNext
    rw [ih hWalk, hStep]

theorem chunkItems_frame {p q : RTCPSDESPacket} {items : List (SDESType × List UInt8)}
    (h : p.chunkItems = some (q, items)) : q = { p with itemoffset := q.itemoffset } := by
  have hFirst : ∀ r b, p.gotoFirstItem = some (r, b) → r = { p with itemoffset := r.itemoffset } := by
    intro r b h
    unfold gotoFirstItem at h
    split at h
    · cases h
      rfl
    split at h
    · cases h
      rfl
    obtain ⟨sdesid, -, hEq⟩ := Option.map_eq_some_iff.mp h
    cases hEq
    rfl
  unfold chunkItems at h
  split at h
  · cases h
  · rename_i r hGoto
    cases h
    exact hFirst _ _ hGoto
  · rename_i r hGoto
    rw [itemWalk_frame h, hFirst _ _ hGoto]

theorem gotoNextChunk_true {p q : RTCPSDESPacket} (h : p.gotoNextChunk = some (q, true)) :
    ∃ chunk chunk', p.currentchunk = some chunk ∧ q.currentchunk = some chunk' ∧
      chunk < chunk' ∧ chunk < p.data.length ∧ q.data = p.data := by
  unfold gotoNextChunk at h
  split at h
  · cases h
  split at h
  · cases h
  rename_i chunk hChunk
  split at h
  · cases h
  split at h
  · cases h
  split at h
  · cases h
  rename_i offset hEnd
  cases h
  refine ⟨chunk, _, hChunk, rfl, ?_, ?_, rfl⟩
  · split <;> omega
  · unfold itemsEnd at hEnd
    split at hEnd
    · cases hEnd
    rename_i hByte
    obtain ⟨hInside, -⟩ := List.getElem?_eq_some_iff.mp hByte
    omega

/-- `do ... while (GotoNextChunk())`. -/
def chunkWalk (p : RTCPSDESPacket) : Option (List (BitVec 32 × List (SDESType × List UInt8))) :=
  match p.getChunkSSRC with
  | none => none
  | some ssrc =>
    match _hItems : p.chunkItems with
    | none => none
    | some (q, items) =>
      match _hNext : q.gotoNextChunk with
      | none => none
      | some (_, false) => some [(ssrc, items)]
      | some (r, true) => r.chunkWalk.map fun chunks => (ssrc, items) :: chunks
termination_by p.data.length - p.currentchunk.getD 0
decreasing_by
  obtain ⟨chunk, chunk', hChunk, hChunk', hLess, hInside, hData⟩ := gotoNextChunk_true _hNext
  have hFrame := chunkItems_frame _hItems
  have hSame : q.data = p.data := by rw [hFrame]
  have hHere : q.currentchunk = p.currentchunk := by rw [hFrame]
  rw [hChunk', ← hHere, hChunk, hData, hSame]
  rw [hSame] at hInside
  change p.data.length - chunk' < p.data.length - chunk
  omega

/-- The chunks as `ProcessRTCPCompoundPacket` comes by them. -/
def read (p : RTCPSDESPacket) : Option (List (BitVec 32 × List (SDESType × List UInt8))) :=
  match p.gotoFirstChunk with
  | none => none
  | some (_, false) => some []
  | some (q, true) => q.chunkWalk

/-! ## What the iteration comes by -/

def Item.contents (i : Item) : SDESType × List UInt8 :=
  ((itemType i.sdesid).getD .unknown, i.itemdata)

def Chunk.contents (c : Chunk) : BitVec 32 × List (SDESType × List UInt8) :=
  (c.ssrc, c.items.map Item.contents)

theorem itemsEnd_eq {data rest : List UInt8} {items : List Item} {chunk offset : Nat}
    (h : At data (chunk + offset) (writeItems items ++ 0 :: rest)) :
    itemsEnd data chunk offset = some (offset + (writeItems items).length) := by
  induction items generalizing offset with
  | nil =>
    have hByte := (at_cons_iff.mp h).1
    unfold itemsEnd
    split
    · rename_i hNone
      rw [hByte] at hNone
      cases hNone
    · rename_i sdesid hSome
      rw [hByte] at hSome
      cases hSome
      rfl
  | cons i items ih =>
    obtain ⟨hId, hLength, -, hRest⟩ := at_item h
    have hPlace : chunk + offset + 2 + i.itemdata.length =
        chunk + (offset + 2 + i.itemdata.length) := by omega
    rw [hPlace] at hRest
    unfold itemsEnd
    split
    · rename_i hNone
      rw [hId] at hNone
      cases hNone
    · rename_i sdesid hSome
      rw [hId] at hSome
      cases hSome
      rw [if_neg i.hId, hLength]
      dsimp only
      rw [i.toNat_length, ih hRest, writeItems_cons, List.length_cons, List.length_cons,
        List.length_append]
      congr 1
      omega

section
variable {p : RTCPSDESPacket} {chunk : Nat} (hKnown : p.knownformat = true)
  (hChunk : p.currentchunk = some chunk)
include hKnown hChunk

theorem getItem_eq {rest : List UInt8} {i : Item} {items : List Item}
    (h : At p.data (chunk + p.itemoffset) (writeItems (i :: items) ++ rest)) :
    p.getItem = some i.contents := by
  obtain ⟨hId, hLength, hData, -⟩ := at_item h
  have hType : p.getItemType = some (itemType i.sdesid) := by
    rw [getItemType, hKnown, hChunk]
    dsimp only
    rw [hId]
    rfl
  have hLen : p.getItemLength = some i.itemdata.length := by
    rw [getItemLength, hKnown, hChunk]
    dsimp only
    rw [hId]
    dsimp only
    rw [if_neg i.hId, hLength, Option.map_some, i.toNat_length]
    rfl
  have hPointer : p.getItemData = some (some (chunk + p.itemoffset + 2)) := by
    rw [getItemData, hKnown, hChunk]
    dsimp only
    rw [hId, Option.map_some, if_neg i.hId]
    rfl
  rw [getItem, hType, hLen, hPointer]
  dsimp only
  rw [hData.slice rfl]
  rfl

theorem gotoNextItem_eq {rest : List UInt8} {i : Item} {items : List Item} {sdesid : UInt8}
    (h : At p.data (chunk + p.itemoffset) (writeItems (i :: items) ++ rest))
    (hNext : p.data[chunk + (p.itemoffset + 2 + i.itemdata.length)]? = some sdesid) :
    p.gotoNextItem =
      if sdesid = 0 then some (p, false)
      else some ({ p with itemoffset := p.itemoffset + 2 + i.itemdata.length }, true) := by
  obtain ⟨hId, hLength, -, -⟩ := at_item h
  rw [gotoNextItem, hKnown, hChunk]
  dsimp only
  rw [hId]
  dsimp only
  rw [if_neg i.hId, hLength]
  dsimp only
  rw [i.toNat_length, hNext]
  rfl

end

theorem itemWalk_eq {p : RTCPSDESPacket} {chunk : Nat} (hKnown : p.knownformat = true)
    (hChunk : p.currentchunk = some chunk) {rest : List UInt8} {i : Item} {items : List Item}
    (h : At p.data (chunk + p.itemoffset) (writeItems (i :: items) ++ 0 :: rest)) :
    ∃ offset, p.itemWalk =
      some ({ p with itemoffset := offset }, (i :: items).map Item.contents) := by
  induction items generalizing p i with
  | nil =>
    have hItem := getItem_eq hKnown hChunk h
    have hRest := (at_item h).2.2.2
    rw [Nat.add_assoc, Nat.add_assoc, ← Nat.add_assoc p.itemoffset] at hRest
    have hNext := gotoNextItem_eq hKnown hChunk h (at_cons_iff.mp hRest).1
    rw [if_pos rfl] at hNext
    refine ⟨p.itemoffset, ?_⟩
    rw [itemWalk_step hItem hNext]
    rfl
  | cons j items ih =>
    have hItem := getItem_eq hKnown hChunk h
    have hRest := (at_item h).2.2.2
    rw [Nat.add_assoc, Nat.add_assoc, ← Nat.add_assoc p.itemoffset] at hRest
    have hNext := gotoNextItem_eq hKnown hChunk h (at_item hRest).1
    rw [if_neg j.hId] at hNext
    obtain ⟨offset, hWalk⟩ := @ih
      { p with itemoffset := p.itemoffset + 2 + i.itemdata.length } hKnown hChunk j hRest
    refine ⟨offset, ?_⟩
    rw [itemWalk_step hItem hNext, if_pos rfl, hWalk]
    rfl

theorem chunkItems_eq {p : RTCPSDESPacket} {chunk : Nat} (hKnown : p.knownformat = true)
    (hChunk : p.currentchunk = some chunk) {rest : List UInt8} {items : List Item}
    (h : At p.data (chunk + 4) (writeItems items ++ 0 :: rest)) :
    ∃ offset, p.chunkItems =
      some ({ p with itemoffset := offset }, items.map Item.contents) := by
  cases items with
  | nil =>
    have hByte := (at_cons_iff.mp h).1
    have hFirst : p.gotoFirstItem = some ({ p with itemoffset := 4 }, false) := by
      rw [gotoFirstItem, hKnown, hChunk]
      dsimp only
      rw [hByte]
      rfl
    refine ⟨4, ?_⟩
    rw [chunkItems, hFirst]
    rfl
  | cons i items =>
    have hByte := (at_item h).1
    have hFirst : p.gotoFirstItem = some ({ p with itemoffset := 4 }, true) := by
      rw [gotoFirstItem, hKnown, hChunk]
      dsimp only
      rw [hByte, Option.map_some, decide_eq_true i.hId]
      rfl
    obtain ⟨offset, hWalk⟩ := @itemWalk_eq { p with itemoffset := 4 } chunk hKnown hChunk rest i
      items h
    refine ⟨offset, ?_⟩
    rw [chunkItems, hFirst]
    exact hWalk

theorem gotoNextChunk_eq {p : RTCPSDESPacket} {chunk count : Nat} (hKnown : p.knownformat = true)
    (hChunk : p.currentchunk = some chunk) (hCount : p.getChunkCount = some count) {c : Chunk}
    (h : At p.data chunk c.write) :
    p.gotoNextChunk =
      if p.curchunknum = count then some (p, false)
      else
        some ({ p with
          currentchunk := some (chunk + c.write.length)
          curchunknum := p.curchunknum + 1
          itemoffset := 4 }, true) := by
  rw [Chunk.write, at_append_iff] at h
  rw [word32.length_write] at h
  have hEnd : itemsEnd p.data chunk 4 = some (4 + (writeItems c.items).length) :=
    itemsEnd_eq h.2
  have hAlign := c.hAlign
  have hLength := c.length_write
  unfold alignment at hAlign
  rw [gotoNextChunk, hKnown, hChunk, hCount]
  dsimp only
  split
  · rename_i hFalse
    cases hFalse
  split
  · rfl
  rw [hEnd]
  dsimp only
  congr 4
  split <;> omega

/-- What is read of a chunk, and the step behind it. -/
theorem chunk_read {p : RTCPSDESPacket} {chunk count : Nat} (hKnown : p.knownformat = true)
    (hChunk : p.currentchunk = some chunk) (hCount : p.getChunkCount = some count) {c : Chunk}
    (h : At p.data chunk c.write) :
    ∃ offset, p.getChunkSSRC = some c.ssrc ∧
      p.chunkItems = some ({ p with itemoffset := offset }, c.items.map Item.contents) ∧
      ({ p with itemoffset := offset } : RTCPSDESPacket).gotoNextChunk =
        if p.curchunknum = count then some ({ p with itemoffset := offset }, false)
        else
          some ({ p with
            currentchunk := some (chunk + c.write.length)
            curchunknum := p.curchunknum + 1
            itemoffset := 4 }, true) := by
  have hSplit := h
  rw [Chunk.write, at_append_iff, word32.length_write] at hSplit
  obtain ⟨offset, hItems⟩ := chunkItems_eq hKnown hChunk hSplit.2
  refine ⟨offset, ?_, hItems, ?_⟩
  · rw [getChunkSSRC, hKnown, hChunk]
    exact Record.read_eq_some_iff.mpr hSplit.1
  · exact @gotoNextChunk_eq { p with itemoffset := offset } chunk count hKnown hChunk hCount c h

theorem chunkWalk_step {p q r : RTCPSDESPacket} {ssrc : BitVec 32}
    {items : List (SDESType × List UInt8)} {more : Bool} (hSsrc : p.getChunkSSRC = some ssrc)
    (hItems : p.chunkItems = some (q, items)) (hNext : q.gotoNextChunk = some (r, more)) :
    p.chunkWalk =
      if more then r.chunkWalk.map fun chunks => (ssrc, items) :: chunks
      else some [(ssrc, items)] := by
  rw [chunkWalk, hSsrc]
  dsimp only
  split
  · rename_i h
    rw [hItems] at h
    cases h
  rename_i q' items' h
  rw [hItems] at h
  cases h
  split
  all_goals
    rename_i h
    rw [hNext] at h
    cases h
  all_goals rfl

/-- From a chunk on the iteration comes by the rest of the chunks. -/
theorem chunkWalk_eq {p : RTCPSDESPacket} {chunk count : Nat} (hKnown : p.knownformat = true)
    (hChunk : p.currentchunk = some chunk) (hCount : p.getChunkCount = some count) {c : Chunk}
    {chunks : List Chunk} (hLeft : p.curchunknum + chunks.length = count)
    (h : At p.data chunk (writeChunks (c :: chunks))) :
    p.chunkWalk = some ((c :: chunks).map Chunk.contents) := by
  induction chunks generalizing p chunk c with
  | nil =>
    rw [writeChunks, List.flatMap_cons, at_append_iff] at h
    have hNum : p.curchunknum = count := hLeft
    obtain ⟨offset, hSsrc, hItems, hNext⟩ := chunk_read hKnown hChunk hCount h.1
    rw [if_pos hNum] at hNext
    rw [chunkWalk_step hSsrc hItems hNext]
    rfl
  | cons d chunks ih =>
    rw [writeChunks, List.flatMap_cons, at_append_iff] at h
    have hNum : p.curchunknum ≠ count := by
      rw [List.length_cons] at hLeft
      omega
    obtain ⟨offset, hSsrc, hItems, hNext⟩ := chunk_read hKnown hChunk hCount h.1
    rw [if_neg hNum] at hNext
    have hWalk := @ih
      { p with
        currentchunk := some (chunk + c.write.length)
        curchunknum := p.curchunknum + 1
        itemoffset := 4 }
      (chunk + c.write.length) hKnown rfl hCount d
      (by rw [← hLeft, List.length_cons]; exact Nat.add_right_comm _ _ _) h.2
    rw [chunkWalk_step hSsrc hItems hNext, if_pos rfl, hWalk]
    rfl

theorem read_eq {p : RTCPSDESPacket} {hdr : RTCPCommonHeader} {pad : List UInt8}
    {chunks : List Chunk} (hKnown : p.knownformat = true)
    (hLayout : Layout hdr (writeChunks chunks) pad p.data)
    (hLength : chunks.length = hdr.count.toNat) :
    p.read = some (chunks.map Chunk.contents) := by
  have hCount : p.getChunkCount = some chunks.length := by
    rw [getChunkCount, hKnown, hLayout.read, hLength]
    rfl
  cases chunks with
  | nil =>
    rw [read, gotoFirstChunk, hCount]
    rfl
  | cons c chunks =>
    rw [read, gotoFirstChunk, hCount]
    exact @chunkWalk_eq { p with currentchunk := some 4, curchunknum := 1, itemoffset := 4 } 4 _
      hKnown rfl hCount c chunks (Nat.add_comm _ _) hLayout.body_at

end RTCPSDESPacket

end LocalCall.Jrtp
