import Mathlib.Algebra.Ring.Int.Defs
import Mathlib.Data.List.InsertIdx
import LocalCall.Data.FrameBufferQueue
import LocalCall.Data.FrameBufferQueueNew
import LocalCall.Library.Transition

/-! # The two frame queues below capacity

The clients are written once, over the operations the two queues have in common. A buffer of the
pooled queue is a position, of the other one a value of its own; the simulation reads the values
off the pool, whose partition keeps a client from writing to a buffer that another one reads.
-/
namespace LocalCall.Data.QueueRefinement
set_option autoImplicit false

variable {S Q H : Type}

/-- `Q` is the queue and `H` what a client holds of a buffer; `write` fills its whole array. -/
structure Operations (Q H S : Type) where
  generateBufferData : Q → Option H × Q
  offerCustom : Q → H → Q
  pollCustom : Q → Option H × Q
  recycleBufferData : Q → H → Q
  write : Q → H → List S → H × Q
  read : Q → H → Option (List S)

def pooled : Operations (FrameBufferQueue S) Nat S where
  generateBufferData := FrameBufferQueue.generateBufferData
  offerCustom q i := q.offerCustom (some i)
  pollCustom := FrameBufferQueue.pollCustom
  recycleBufferData q i := q.recycleBufferData (some i)
  write q i frame := (i, q.setBuffer i frame)
  read := FrameBufferQueue.content

def poolFree [Zero S] : Operations (FrameBufferQueueNew S) (BufferDataExt S) S where
  generateBufferData q := (some q.generateBufferData, q)
  offerCustom := FrameBufferQueueNew.offerCustom
  pollCustom := FrameBufferQueueNew.pollCustom
  recycleBufferData := FrameBufferQueueNew.recycleBufferData
  write q data frame := (⟨data.mBufferExt.map fun _ => frame⟩, q)
  read _ data := data.mBufferExt

/-- What the clients hold, a generated buffer with a mark once it has been filled, and what they
have got: `outstanding` counts the buffers asked for and not recycled, `polled` and `seen` are the
results of the polls and of the reads. -/
structure Clients (Q H S : Type) where
  queue : Q
  producer : List (H × Bool)
  consumer : List H
  outstanding : Int
  polled : List (Option (Option (List S)))
  seen : List (Option (List S))

inductive Step (S : Type) where
  | generate
  | fill (k : Nat) (frame : List S)
  | offer (k : Nat)
  | recycleGenerated (k : Nat)
  | poll
  | read (k : Nat)
  | recyclePolled (k : Nat)
  deriving DecidableEq, Repr

def start (queue : Q) : Clients Q H S := ⟨queue, [], [], 0, [], []⟩

/-- The step is refused when the client does not hold the buffer it speaks of, offers one that it
has not filled, or fills one with less or more than a frame of `n` samples. -/
def step (ops : Operations Q H S) (n : Nat) (s : Clients Q H S) :
    Step S → Option (Clients Q H S)
  | .generate =>
    some { s with
      queue := (ops.generateBufferData s.queue).2
      producer := s.producer ++ (ops.generateBufferData s.queue).1.toList.map (·, false)
      outstanding := s.outstanding + 1 }
  | .fill k frame =>
    if frame.length = n then
      s.producer[k]?.map fun h =>
        { s with
          queue := (ops.write s.queue h.1 frame).2
          producer := s.producer.set k ((ops.write s.queue h.1 frame).1, true) }
    else none
  | .offer k =>
    match s.producer[k]? with
    | some (h, true) =>
      some { s with
        queue := ops.offerCustom s.queue h
        producer := s.producer.eraseIdx k }
    | _ => none
  | .recycleGenerated k =>
    s.producer[k]?.map fun h =>
      { s with
        queue := ops.recycleBufferData s.queue h.1
        producer := s.producer.eraseIdx k
        outstanding := s.outstanding - 1 }
  | .poll =>
    some { s with
      queue := (ops.pollCustom s.queue).2
      consumer := s.consumer ++ (ops.pollCustom s.queue).1.toList
      polled := s.polled ++ [(ops.pollCustom s.queue).1.map (ops.read (ops.pollCustom s.queue).2)] }
  | .read k =>
    s.consumer[k]?.map fun h => { s with seen := s.seen ++ [ops.read s.queue h] }
  | .recyclePolled k =>
    s.consumer[k]?.map fun h =>
      { s with
        queue := ops.recycleBufferData s.queue h
        consumer := s.consumer.eraseIdx k
        outstanding := s.outstanding - 1 }

def view (read : H → Option (List S)) (h : H × Bool) : Option (Option (List S)) :=
  if h.2 then some (read h.1) else none

/-- The pool of `N` buffers of `n` samples holds what the queue without a pool holds. -/
structure Simulates (N n : Nat) (p : Clients (FrameBufferQueue S) Nat S)
    (t : Clients (FrameBufferQueueNew S) (BufferDataExt S) S) : Prop where
  length_eq : p.queue.mDataBuffer.length = N
  owned : p.queue.Owned (p.producer.map Prod.fst ++ p.consumer)
  sized : ∀ i < N, (p.queue.content i).isSome = decide (n ≠ 0)
  allocated : ∀ h ∈ t.producer, h.1.mBufferExt.isSome = decide (n ≠ 0)
  counted : t.queue.Counted
  mDatasize : t.queue.mDatasize = n
  queue : p.queue.queue.map p.queue.content = t.queue.queue.map (·.mBufferExt)
  producer : p.producer.map (view p.queue.content) = t.producer.map (view (·.mBufferExt))
  consumer : p.consumer.map p.queue.content = t.consumer.map (·.mBufferExt)
  asked : p.outstanding = t.outstanding
  outstanding : t.outstanding = p.queue.queue.length + p.producer.length + p.consumer.length
  polled : p.polled = t.polled
  seen : p.seen = t.seen

section Simulation

variable {N n : Nat} {p : Clients (FrameBufferQueue S) Nat S}
  {t : Clients (FrameBufferQueueNew S) (BufferDataExt S) S}

theorem getElem?_of_map_eq {α β γ : Type} {f : α → γ} {g : β → γ} {as : List α} {bs : List β}
    (h : as.map f = bs.map g) (k : Nat) :
    (as[k]? = none ∧ bs[k]? = none) ∨
      ∃ a b, as[k]? = some a ∧ bs[k]? = some b ∧ f a = g b := by
  have hk := congrArg (·[k]?) h
  simp only [List.getElem?_map] at hk
  cases ha : as[k]? with
  | none =>
    cases hb : bs[k]? with
    | none => exact Or.inl ⟨rfl, rfl⟩
    | some b => rw [ha, hb] at hk; cases hk
  | some a =>
    cases hb : bs[k]? with
    | none => rw [ha, hb] at hk; cases hk
    | some b =>
      rw [ha, hb] at hk
      exact Or.inr ⟨a, b, rfl, rfl, Option.some.inj hk⟩

theorem perm_eraseIdx {α : Type} {as : List α} {a : α} {k : Nat} (h : as[k]? = some a) :
    as.Perm (a :: as.eraseIdx k) := by
  obtain ⟨hLt, rfl⟩ := List.getElem?_eq_some_iff.mp h
  exact (List.getElem_cons_eraseIdx_perm hLt).symm

theorem length_eraseIdx_of_getElem? {α : Type} {as : List α} {a : α} {k : Nat}
    (h : as[k]? = some a) : as.length = (as.eraseIdx k).length + 1 :=
  (perm_eraseIdx h).length_eq

theorem set_map_congr {α β : Type} {f g : α → β} {as : List α} {k : Nat} (x : β)
    (h : ∀ j a, j ≠ k → as[j]? = some a → f a = g a) :
    (as.map f).set k x = (as.map g).set k x := by
  apply List.ext_getElem?
  intro j
  by_cases hj : j = k
  · subst hj
    rw [List.getElem?_set, List.getElem?_set, if_pos rfl, if_pos rfl, List.length_map,
      List.length_map]
  · rw [List.getElem?_set_ne (Ne.symm hj), List.getElem?_set_ne (Ne.symm hj),
      List.getElem?_map, List.getElem?_map]
    cases ha : as[j]? with
    | none => rfl
    | some a => exact congrArg some (h j a hj ha)

theorem simulates_start [Zero S] (size : Int) (n : Nat) :
    Simulates (FrameBufferQueue.poolSize size) n (start (.new size n))
      (start (.new size.toNat n) : Clients _ _ S) where
  length_eq := List.length_replicate
  owned := FrameBufferQueue.new_owned size n
  sized i hi := by
    simp only [start, FrameBufferQueue.content, FrameBufferQueue.new, List.getElem?_replicate,
      if_pos hi, Option.bind_some, BufferData.new]
    split <;> simp_all
  allocated _ h := absurd h List.not_mem_nil
  counted := rfl
  mDatasize := rfl
  queue := rfl
  producer := rfl
  consumer := rfl
  asked := rfl
  outstanding := rfl
  polled := rfl
  seen := rfl

theorem Simulates.generate [Zero S] (h : Simulates N n p t)
    (hRoom : t.outstanding + 1 ≤ N) :
    Option.Rel (Simulates N n) (step pooled n p .generate) (step poolFree n t .generate) := by
  have hFree : p.queue.queue.length + (p.producer.map Prod.fst ++ p.consumer).length <
      p.queue.mDataBuffer.length := by
    have hCount := h.outstanding
    rw [h.length_eq, List.length_append, List.length_map]
    omega
  obtain ⟨i, hi, hGen⟩ := h.owned.generateBufferData_free hFree
  apply Option.Rel.some
  simp only [pooled, poolFree, hGen, Option.toList_some, List.map_cons, List.map_nil]
  constructor
  case length_eq => exact (p.queue.setState_length i 0).trans h.length_eq
  case owned =>
    refine (h.owned.claim hi).perm ?_
    rw [List.map_append, List.append_assoc]
    exact List.perm_middle.symm
  case sized =>
    rw [FrameBufferQueue.setState_content]
    exact h.sized
  case allocated =>
    intro b hb
    rcases List.mem_append.mp hb with hb | hb
    · exact h.allocated b hb
    · rw [List.mem_singleton.mp hb, FrameBufferQueueNew.generateBufferData, BufferDataExt.new,
        h.mDatasize]
      split <;> simp_all
  case counted => exact h.counted
  case mDatasize => exact h.mDatasize
  case queue => exact (p.queue.setState_content i 0) ▸ h.queue
  case producer =>
    rw [FrameBufferQueue.setState_content, List.map_append, List.map_append, h.producer]
    rfl
  case consumer => exact (p.queue.setState_content i 0) ▸ h.consumer
  case asked => exact congrArg (· + 1) h.asked
  case outstanding =>
    have hCount := h.outstanding
    rw [List.length_append, FrameBufferQueue.setState_queue, List.length_singleton]
    dsimp only
    omega
  case polled => exact h.polled
  case seen => exact h.seen

theorem Simulates.producer_cases (h : Simulates N n p t) (k : Nat) :
    (p.producer[k]? = none ∧ t.producer[k]? = none) ∨
      ∃ i b f, p.producer[k]? = some (i, f) ∧ t.producer[k]? = some (b, f) ∧
        (f = true → p.queue.content i = b.mBufferExt) := by
  obtain hNone | ⟨⟨i, f⟩, ⟨b, f'⟩, hp, ht, hView⟩ := getElem?_of_map_eq h.producer k
  · exact Or.inl hNone
  · refine Or.inr ⟨i, b, f, hp, ?_⟩
    cases f <;> cases f' <;> simp_all [view]

theorem Simulates.apart (h : Simulates N n p t) {k i : Nat} {f : Bool}
    (hk : p.producer[k]? = some (i, f)) :
    i < N ∧ i ∉ p.queue.queue ∧ i ∉ p.consumer ∧
      ∀ j a, j ≠ k → p.producer[j]? = some a → a.1 ≠ i := by
  have hNodup := Pool.Partition.nodup h.owned
  obtain ⟨-, hHeld, hQueue⟩ := List.nodup_append.mp hNodup
  obtain ⟨hProducer, -, hConsumer⟩ := List.nodup_append.mp hHeld
  have hFst : (p.producer.map Prod.fst)[k]? = some i := by rw [List.getElem?_map, hk]; rfl
  have hMem : i ∈ p.producer.map Prod.fst := List.mem_of_getElem? hFst
  have hHeldMem : i ∈ p.producer.map Prod.fst ++ p.consumer := List.mem_append_left _ hMem
  refine ⟨?_, fun hi => hQueue i hi i hHeldMem rfl, fun hi => hConsumer i hMem i hi rfl, ?_⟩
  · rw [← h.length_eq]
    exact Pool.Partition.lt_of_mem h.owned (List.mem_append_right _ hHeldMem)
  · rintro j ⟨i', f'⟩ hj hGet rfl
    have hFst' : (p.producer.map Prod.fst)[j]? = some i' := by rw [List.getElem?_map, hGet]; rfl
    obtain ⟨hLt, -⟩ := List.getElem?_eq_some_iff.mp hFst'
    exact hj ((List.getElem?_inj hLt hProducer).mp (hFst'.trans hFst.symm))

theorem Simulates.fill [Zero S] (h : Simulates N n p t) (k : Nat) (frame : List S) :
    Option.Rel (Simulates N n) (step pooled n p (.fill k frame))
      (step poolFree n t (.fill k frame)) := by
  rw [step, step]
  by_cases hFrame : frame.length = n
  swap
  · rw [if_neg hFrame, if_neg hFrame]
    exact Option.Rel.none
  rw [if_pos hFrame, if_pos hFrame]
  obtain ⟨hp, ht⟩ | ⟨i, b, f, hp, ht, -⟩ := h.producer_cases k
  · rw [hp, ht]
    exact Option.Rel.none
  rw [hp, ht]
  obtain ⟨hLt, hQueue, hConsumer, hOthers⟩ := h.apart hp
  obtain ⟨hk, hGet⟩ := List.getElem?_eq_some_iff.mp hp
  have hSelf := p.queue.setBuffer_content_self i frame
  have hOther {j : Nat} (hj : j ≠ i) := p.queue.setBuffer_content_of_ne i j frame hj
  have hFst : (p.producer.set k (i, true)).map Prod.fst = p.producer.map Prod.fst := by
    have hk' : k < (p.producer.map Prod.fst).length := by rwa [List.length_map]
    have hi : (p.producer.map Prod.fst)[k] = i := by rw [List.getElem_map, hGet]
    rw [List.map_set]
    exact hi ▸ List.set_getElem_self hk'
  have hAllocated : b.mBufferExt.isSome = decide (n ≠ 0) :=
    h.allocated (b, f) (List.mem_of_getElem? ht)
  -- both arrays were allocated, or neither was, so both now hold the frame
  have hFilled : (p.queue.content i).map (fun _ => frame) = b.mBufferExt.map fun _ => frame := by
    have hSome := (h.sized i hLt).trans hAllocated.symm
    cases hc : p.queue.content i <;> cases hb : b.mBufferExt <;> simp_all
  apply Option.Rel.some
  constructor
  case length_eq => exact (p.queue.setBuffer_length i frame).trans h.length_eq
  case owned =>
    dsimp only [pooled]
    rw [hFst]
    exact h.owned.setBuffer frame
  case sized =>
    intro j hj
    by_cases hji : j = i
    · subst hji
      dsimp only [pooled]
      rw [hSelf, Option.isSome_map]
      exact h.sized j hj
    · exact (congrArg Option.isSome (hOther hji)).trans (h.sized j hj)
  case allocated =>
    intro x hx
    rcases List.mem_or_eq_of_mem_set hx with hx | rfl
    · exact h.allocated x hx
    · exact (Option.isSome_map).trans hAllocated
  case counted => exact h.counted
  case mDatasize => exact h.mDatasize
  case queue =>
    refine Eq.trans ?_ h.queue
    exact List.map_congr_left fun j hj => hOther fun hji => hQueue (hji ▸ hj)
  case producer =>
    dsimp only [pooled, poolFree]
    rw [List.map_set, List.map_set, ← h.producer, view, view, if_pos rfl, if_pos rfl, hSelf, hFilled]
    apply set_map_congr
    rintro j ⟨i', f'⟩ hj hGet'
    rw [view, view, hOther (hOthers j (i', f') hj hGet')]
  case consumer =>
    refine Eq.trans ?_ h.consumer
    exact List.map_congr_left fun j hj => hOther fun hji => hConsumer (hji ▸ hj)
  case asked => exact h.asked
  case outstanding =>
    dsimp only [pooled]
    rw [List.length_set]
    exact h.outstanding
  case polled => exact h.polled
  case seen => exact h.seen

theorem Simulates.offer [Zero S] (h : Simulates N n p t) (k : Nat) :
    Option.Rel (Simulates N n) (step pooled n p (.offer k)) (step poolFree n t (.offer k)) := by
  rw [step, step]
  obtain ⟨hp, ht⟩ | ⟨i, b, f, hp, ht, hContent⟩ := h.producer_cases k
  · rw [hp, ht]
    exact Option.Rel.none
  rw [hp, ht]
  cases f with
  | false => exact Option.Rel.none
  | true =>
    apply Option.Rel.some
    have hOffered : (p.queue.offerCustom (some i)).queue = p.queue.queue ++ [i] := rfl
    constructor
    case length_eq => exact h.length_eq
    case owned =>
      apply FrameBufferQueue.Owned.offerCustom
      refine h.owned.perm ?_
      exact ((perm_eraseIdx hp).map Prod.fst).append_right p.consumer
    case sized => exact h.sized
    case allocated => exact fun x hx => h.allocated x (List.mem_of_mem_eraseIdx hx)
    case counted => exact h.counted.offerCustom b
    case mDatasize => exact h.mDatasize
    case queue =>
      dsimp only [pooled, poolFree, FrameBufferQueueNew.offerCustom]
      rw [hOffered, List.map_append, List.map_append, ← h.queue]
      exact congrArg (p.queue.queue.map p.queue.content ++ [·]) (hContent rfl)
    case producer =>
      rw [← List.eraseIdx_map, ← List.eraseIdx_map, ← h.producer]
      rfl
    case consumer => exact h.consumer
    case asked => exact h.asked
    case outstanding =>
      have hCount := h.outstanding
      have hErase := length_eraseIdx_of_getElem? hp
      dsimp only [pooled]
      rw [hOffered, List.length_append, List.length_singleton]
      omega
    case polled => exact h.polled
    case seen => exact h.seen

theorem Simulates.recycleGenerated [Zero S] (h : Simulates N n p t) (k : Nat) :
    Option.Rel (Simulates N n) (step pooled n p (.recycleGenerated k))
      (step poolFree n t (.recycleGenerated k)) := by
  rw [step, step]
  obtain ⟨hp, ht⟩ | ⟨i, b, f, hp, ht, -⟩ := h.producer_cases k
  · rw [hp, ht]
    exact Option.Rel.none
  rw [hp, ht]
  apply Option.Rel.some
  have hSame : (p.queue.recycleBufferData (some i)).content = p.queue.content :=
    p.queue.setState_content i (-1)
  constructor
  case length_eq => exact (p.queue.setState_length i (-1)).trans h.length_eq
  case owned =>
    apply FrameBufferQueue.Owned.recycleBufferData
    refine h.owned.perm ?_
    exact ((perm_eraseIdx hp).map Prod.fst).append_right p.consumer
  case sized => exact hSame ▸ h.sized
  case allocated => exact fun x hx => h.allocated x (List.mem_of_mem_eraseIdx hx)
  case counted => exact h.counted
  case mDatasize => exact h.mDatasize
  case queue => exact hSame ▸ h.queue
  case producer =>
    dsimp only [pooled]
    rw [hSame, ← List.eraseIdx_map, ← List.eraseIdx_map, ← h.producer]
  case consumer => exact hSame ▸ h.consumer
  case asked => exact congrArg (· - 1) h.asked
  case outstanding =>
    have hCount := h.outstanding
    have hErase := length_eraseIdx_of_getElem? hp
    have hQueue : (p.queue.recycleBufferData (some i)).queue = p.queue.queue := rfl
    dsimp only [pooled]
    rw [hQueue]
    omega
  case polled => exact h.polled
  case seen => exact h.seen

theorem Simulates.poll_cases (h : Simulates N n p t) :
    (p.queue.pollCustom = (none, p.queue) ∧ t.queue.pollCustom = (none, t.queue)) ∨
      ∃ i is b bs, p.queue.queue = i :: is ∧ t.queue.queue = b :: bs ∧
        p.queue.content i = b.mBufferExt ∧
        p.queue.pollCustom = (some i, { p.queue with queue := is }) ∧
        t.queue.pollCustom = (some b, { t.queue with queue := bs, mCount := bs.length }) := by
  have hMap := h.queue
  obtain ⟨hEmpty, hPoll⟩ | ⟨i, is, hQueue, hPoll⟩ := p.queue.pollCustom_cases
  · obtain ⟨-, hPoll'⟩ | ⟨b, bs, hQueue', -⟩ := h.counted.pollCustom_cases
    · exact Or.inl ⟨hPoll, hPoll'⟩
    · rw [hEmpty, hQueue'] at hMap
      cases hMap
  · obtain ⟨hEmpty', -⟩ | ⟨b, bs, hQueue', hPoll'⟩ := h.counted.pollCustom_cases
    · rw [hQueue, hEmpty'] at hMap
      cases hMap
    · rw [hQueue, hQueue'] at hMap
      obtain ⟨hContent, -⟩ := List.cons.inj hMap
      exact Or.inr ⟨i, is, b, bs, hQueue, hQueue', hContent, hPoll, hPoll'⟩

theorem Simulates.poll [Zero S] (h : Simulates N n p t) :
    Option.Rel (Simulates N n) (step pooled n p .poll) (step poolFree n t .poll) := by
  rw [step, step]
  apply Option.Rel.some
  obtain ⟨hPoll, hPoll'⟩ | ⟨i, is, b, bs, hQueue, hQueue', hContent, hPoll, hPoll'⟩ :=
    h.poll_cases
  · simp only [pooled, poolFree, hPoll, hPoll', Option.toList_none, List.append_nil,
      Option.map_none]
    exact { h with polled := congrArg (· ++ [none]) h.polled }
  · simp only [pooled, poolFree, hPoll, hPoll', Option.toList_some, Option.map_some]
    have hMap := h.queue
    rw [hQueue, hQueue'] at hMap
    constructor
    case length_eq => exact h.length_eq
    case owned =>
      have hOwned := h.owned.pollCustom
      rw [hPoll] at hOwned
      refine hOwned.perm ?_
      change ([i] ++ (p.producer.map Prod.fst ++ p.consumer)).Perm
        (p.producer.map Prod.fst ++ (p.consumer ++ [i]))
      rw [← List.append_assoc (p.producer.map Prod.fst)]
      exact List.perm_append_comm
    case sized => exact h.sized
    case allocated => exact h.allocated
    case counted => rfl
    case mDatasize => exact h.mDatasize
    case queue => exact (List.cons.inj hMap).2
    case producer => exact h.producer
    case consumer =>
      rw [List.map_append, List.map_append, ← h.consumer]
      exact congrArg (p.consumer.map p.queue.content ++ [·]) hContent
    case asked => exact h.asked
    case outstanding =>
      have hCount := h.outstanding
      rw [hQueue, List.length_cons] at hCount
      rw [List.length_append, List.length_singleton]
      dsimp only
      omega
    case polled => exact congrArg₂ (· ++ [some ·]) h.polled hContent
    case seen => exact h.seen

theorem Simulates.read [Zero S] (h : Simulates N n p t) (k : Nat) :
    Option.Rel (Simulates N n) (step pooled n p (.read k)) (step poolFree n t (.read k)) := by
  rw [step, step]
  obtain ⟨hp, ht⟩ | ⟨i, b, hp, ht, hContent⟩ := getElem?_of_map_eq h.consumer k
  · rw [hp, ht]
    exact Option.Rel.none
  · rw [hp, ht]
    apply Option.Rel.some
    exact { h with seen := congrArg₂ (· ++ [·]) h.seen hContent }

theorem Simulates.recyclePolled [Zero S] (h : Simulates N n p t) (k : Nat) :
    Option.Rel (Simulates N n) (step pooled n p (.recyclePolled k))
      (step poolFree n t (.recyclePolled k)) := by
  rw [step, step]
  obtain ⟨hp, ht⟩ | ⟨i, b, hp, ht, -⟩ := getElem?_of_map_eq h.consumer k
  · rw [hp, ht]
    exact Option.Rel.none
  rw [hp, ht]
  apply Option.Rel.some
  have hSame : (p.queue.recycleBufferData (some i)).content = p.queue.content :=
    p.queue.setState_content i (-1)
  constructor
  case length_eq => exact (p.queue.setState_length i (-1)).trans h.length_eq
  case owned =>
    apply FrameBufferQueue.Owned.recycleBufferData
    refine h.owned.perm ?_
    exact ((perm_eraseIdx hp).append_left _).trans List.perm_middle
  case sized => exact hSame ▸ h.sized
  case allocated => exact h.allocated
  case counted => exact h.counted
  case mDatasize => exact h.mDatasize
  case queue => exact hSame ▸ h.queue
  case producer => exact hSame ▸ h.producer
  case consumer =>
    dsimp only [pooled]
    rw [hSame, ← List.eraseIdx_map, ← List.eraseIdx_map, ← h.consumer]
  case asked => exact congrArg (· - 1) h.asked
  case outstanding =>
    have hCount := h.outstanding
    have hErase := length_eraseIdx_of_getElem? hp
    have hQueue : (p.queue.recycleBufferData (some i)).queue = p.queue.queue := rfl
    dsimp only [pooled]
    rw [hQueue]
    omega
  case polled => exact h.polled
  case seen => exact h.seen

theorem Simulates.step [Zero S] {e : Step S} (h : Simulates N n p t)
    (hRoom : ∀ t', step poolFree n t e = some t' → t'.outstanding ≤ N) :
    Option.Rel (Simulates N n) (step pooled n p e) (step poolFree n t e) := by
  cases e with
  | generate => exact h.generate (hRoom _ rfl)
  | fill k frame => exact h.fill k frame
  | offer k => exact h.offer k
  | recycleGenerated k => exact h.recycleGenerated k
  | poll => exact h.poll
  | read k => exact h.read k
  | recyclePolled k => exact h.recyclePolled k

end Simulation

theorem polled_eq_of_outstanding_le [Zero S] (size : Int) (n : Nat) (steps : List (Step S))
    (hSize : 2 ≤ size)
    (hOutstanding : Transition.Always (step poolFree n) (fun t => t.outstanding ≤ size)
      (start (.new size.toNat n)) steps) :
    (Transition.run (step pooled n) (start (.new size n)) steps).map (fun s => (s.polled, s.seen)) =
      (Transition.run (step poolFree n) (start (.new size.toNat n)) steps).map
        fun s => (s.polled, s.seen) := by
  have hPool : (FrameBufferQueue.poolSize size : Int) = size := by
    rw [FrameBufferQueue.poolSize, if_pos hSize]
    omega
  have hBound : Transition.Always (step poolFree n)
      (fun t => t.outstanding ≤ (FrameBufferQueue.poolSize size : Int))
      (start (.new size.toNat n)) steps := by
    rw [hPool]
    exact hOutstanding
  have hRel := Transition.run_lockstep Simulates.step (simulates_start size n) hBound
  exact Transition.map_eq_of_rel hRel fun h => Prod.ext h.polled h.seen

/-- Both buffers of a pool of two are out, and the first is used again. -/
def atCapacity : List (Step Int) :=
  [.generate, .generate, .fill 0 [7, 1], .fill 1 [8, 2], .offer 0, .offer 0, .poll, .read 0,
    .recyclePolled 0, .generate, .fill 0 [9, 3], .poll, .offer 0, .read 0, .recyclePolled 0, .poll,
    .read 0]

theorem polled_eq_atCapacity :
    (Transition.run (step pooled 2) (start (.new 2 2)) atCapacity).map
        (fun s => (s.polled, s.seen)) =
      (Transition.run (step poolFree 2) (start (.new 2 2)) atCapacity).map
        (fun s => (s.polled, s.seen)) ∧
    (Transition.run (step pooled 2) (start (.new 2 2)) atCapacity).map (·.seen) =
      some [some [7, 1], some [8, 2], some [9, 3]] :=
  ⟨polled_eq_of_outstanding_le 2 2 _ (by decide) (by decide), by decide⟩

end LocalCall.Data.QueueRefinement
