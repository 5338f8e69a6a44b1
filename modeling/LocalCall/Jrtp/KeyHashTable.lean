import Mathlib.Logic.Function.Basic
import Mathlib.Data.List.Basic

/-! # The hash table with a list through it

`rtpkeyhashtable.h`: the elements with one hash index are chained from `table` on, all of them are
chained in the order in which they were added, and a cursor walks along that list. An access to
memory that is not allocated, or through a pointer that has no value, ends the run.
-/
namespace LocalCall.Jrtp
set_option autoImplicit false

abbrev Address := Nat

structure HashElement (K V : Type) where
  hashindex : Nat
  key : K
  element : V
  hashprev : Option Address
  hashnext : Option Address
  listprev : Option Address
  listnext : Option Address
  deriving DecidableEq

inductive KeyHashTableError where
  | functionReturnedInvalidHashIndex | keyAlreadyExists | keyNotFound | noCurrentElement
  deriving DecidableEq

inductive Answer (K V : Type) where
  | done
  | failed (e : KeyHashTableError)
  | truth (b : Bool)
  | key (k : K)
  | element (v : V)
  deriving DecidableEq

inductive TableCall (K V : Type) where
  | gotoFirstElement
  | gotoLastElement
  | hasCurrentElement
  | deleteCurrentElement
  | getCurrentElement
  | getCurrentKey
  | gotoElement (k : K)
  | hasElement (k : K)
  | gotoNextElement
  | gotoPreviousElement
  | clear
  | addElement (k : K) (elem : V)
  | deleteElement (k : K)
  deriving DecidableEq

/-- `curhashelem` is `none` as long as nothing was assigned to it, and `some none` for NULL. The
addresses below `allocated` have been in use. -/
structure RTPKeyHashTable (K V : Type) where
  heap : Address → Option (HashElement K V)
  allocated : Nat
  table : Nat → Option Address
  firsthashelem : Option Address
  lasthashelem : Option Address
  curhashelem : Option (Option Address)

namespace RTPKeyHashTable

variable {K V : Type} [DecidableEq K] (getIndex : K → Nat) (hashsize : Nat)

/-- The constructor leaves the cursor alone. -/
def new : RTPKeyHashTable K V := ⟨fun _ => none, 0, fun _ => none, none, none, none⟩

def assign (a : Address) (f : HashElement K V → HashElement K V) (t : RTPKeyHashTable K V) :
    Option (RTPKeyHashTable K V) :=
  (t.heap a).map fun e => { t with heap := Function.update t.heap a (some (f e)) }

def assignIfAny (a : Option Address) (f : HashElement K V → HashElement K V)
    (t : RTPKeyHashTable K V) : Option (RTPKeyHashTable K V) :=
  match a with
  | none => some t
  | some a => t.assign a f

def find (t : RTPKeyHashTable K V) (k : K) : Nat → Option Address → Option (Option Address)
  | _, none => some none
  | 0, some _ => none
  | fuel + 1, some a =>
    (t.heap a).bind fun e => if e.key = k then some (some a) else t.find k fuel e.hashnext

def gotoFirstElement (t : RTPKeyHashTable K V) : RTPKeyHashTable K V :=
  { t with curhashelem := some t.firsthashelem }

def gotoLastElement (t : RTPKeyHashTable K V) : RTPKeyHashTable K V :=
  { t with curhashelem := some t.lasthashelem }

def hasCurrentElement (t : RTPKeyHashTable K V) : Option Bool := t.curhashelem.map Option.isSome

def current (t : RTPKeyHashTable K V) : Option (HashElement K V) := t.curhashelem.join.bind t.heap

def moveCursor (link : HashElement K V → Option Address) (t : RTPKeyHashTable K V) :
    Option (RTPKeyHashTable K V) :=
  match t.curhashelem with
  | none => none
  | some none => some t
  | some (some cur) => (t.heap cur).map fun e => { t with curhashelem := some (link e) }

def gotoNextElement (t : RTPKeyHashTable K V) : Option (RTPKeyHashTable K V) :=
  t.moveCursor HashElement.listnext

def gotoPreviousElement (t : RTPKeyHashTable K V) : Option (RTPKeyHashTable K V) :=
  t.moveCursor HashElement.listprev

def gotoElement (k : K) (t : RTPKeyHashTable K V) :
    Option (RTPKeyHashTable K V × Answer K V) :=
  if hashsize ≤ getIndex k then some (t, .failed .functionReturnedInvalidHashIndex)
  else
    (t.find k t.allocated (t.table (getIndex k))).map fun found =>
      ({ t with curhashelem := some found },
        if found.isSome then .done else .failed .keyNotFound)

def hasElement (k : K) (t : RTPKeyHashTable K V) : Option Bool :=
  if hashsize ≤ getIndex k then some false
  else (t.find k t.allocated (t.table (getIndex k))).map Option.isSome

def unlinkHash (cur : HashElement K V) (t : RTPKeyHashTable K V) : Option (RTPKeyHashTable K V) :=
  match cur.hashprev with
  | none =>
    { t with table := Function.update t.table cur.hashindex cur.hashnext }.assignIfAny cur.hashnext
      fun e => { e with hashprev := none }
  | some tmp1 =>
    (t.assign tmp1 fun e => { e with hashnext := cur.hashnext }).bind fun t =>
      t.assignIfAny cur.hashnext fun e => { e with hashprev := some tmp1 }

def unlinkList (cur : HashElement K V) (t : RTPKeyHashTable K V) : Option (RTPKeyHashTable K V) :=
  match cur.listprev, cur.listnext with
  | none, none => some { t with firsthashelem := none, lasthashelem := none }
  | none, some tmp2 =>
    { t with firsthashelem := some tmp2 }.assign tmp2 fun e => { e with listprev := none }
  | some tmp1, none =>
    (t.assign tmp1 fun e => { e with listnext := none }).map fun t =>
      { t with lasthashelem := some tmp1 }
  | some tmp1, some tmp2 =>
    (t.assign tmp1 fun e => { e with listnext := some tmp2 }).bind fun t =>
      t.assign tmp2 fun e => { e with listprev := some tmp1 }

def deleteCurrentElement (t : RTPKeyHashTable K V) :
    Option (RTPKeyHashTable K V × Answer K V) :=
  match t.curhashelem with
  | none => none
  | some none => some (t, .failed .noCurrentElement)
  | some (some cur) =>
    (t.heap cur).bind fun e =>
      (t.unlinkHash e).bind fun t =>
        (t.unlinkList e).map fun t =>
          ({ t with
              heap := Function.update t.heap cur none
              curhashelem := some e.listnext }, .done)

def deleteElement (k : K) (t : RTPKeyHashTable K V) :
    Option (RTPKeyHashTable K V × Answer K V) :=
  (t.gotoElement getIndex hashsize k).bind fun (t, status) =>
    match status with
    | .failed e => some (t, .failed e)
    | _ => t.deleteCurrentElement

def freeList : Nat → Option Address → RTPKeyHashTable K V → Option (RTPKeyHashTable K V)
  | _, none, t => some t
  | 0, some _, _ => none
  | fuel + 1, some tmp1, t =>
    (t.heap tmp1).bind fun e =>
      freeList fuel e.listnext { t with heap := Function.update t.heap tmp1 none }

/-- `Clear` does not touch the cursor. -/
def clear (t : RTPKeyHashTable K V) : Option (RTPKeyHashTable K V) :=
  (freeList t.allocated t.firsthashelem
    { t with table := fun i => if i < hashsize then none else t.table i }).map fun t =>
      { t with firsthashelem := none, lasthashelem := none }

/-- The end of `AddElement`, which puts the new element behind the list. -/
def appendToList (newelem : Address) (t : RTPKeyHashTable K V) : Option (RTPKeyHashTable K V) :=
  match t.firsthashelem with
  | none => some { t with firsthashelem := some newelem, lasthashelem := some newelem }
  | some _ =>
    t.lasthashelem.bind fun last =>
      (t.assign last fun e => { e with listnext := some newelem }).bind fun t =>
        (t.assign newelem fun e => { e with listprev := some last }).map fun t =>
          { t with lasthashelem := some newelem }

def addElement (k : K) (elem : V) (t : RTPKeyHashTable K V) :
    Option (RTPKeyHashTable K V × Answer K V) :=
  if hashsize ≤ getIndex k then some (t, .failed .functionReturnedInvalidHashIndex)
  else
    (t.find k t.allocated (t.table (getIndex k))).bind fun found =>
      if found.isSome then some (t, .failed .keyAlreadyExists)
      else
        let newelem := t.allocated
        let e := t.table (getIndex k)
        let t := { t with
          heap := Function.update t.heap newelem
            (some ⟨getIndex k, k, elem, none, e, none, none⟩)
          allocated := t.allocated + 1
          table := Function.update t.table (getIndex k) (some newelem) }
        (t.assignIfAny e fun e => { e with hashprev := some newelem }).bind fun t =>
          (t.appendToList newelem).map fun t => (t, .done)

def perform (t : RTPKeyHashTable K V) :
    TableCall K V → Option (RTPKeyHashTable K V × Answer K V)
  | .gotoFirstElement => some (t.gotoFirstElement, .done)
  | .gotoLastElement => some (t.gotoLastElement, .done)
  | .hasCurrentElement => t.hasCurrentElement.map fun b => (t, .truth b)
  | .deleteCurrentElement => t.deleteCurrentElement
  | .getCurrentElement => t.current.map fun e => (t, .element e.element)
  | .getCurrentKey => t.current.map fun e => (t, .key e.key)
  | .gotoElement k => t.gotoElement getIndex hashsize k
  | .hasElement k => (t.hasElement getIndex hashsize k).map fun b => (t, .truth b)
  | .gotoNextElement => t.gotoNextElement.map fun t => (t, .done)
  | .gotoPreviousElement => t.gotoPreviousElement.map fun t => (t, .done)
  | .clear => (t.clear hashsize).map fun t => (t, .done)
  | .addElement k elem => t.addElement getIndex hashsize k elem
  | .deleteElement k => t.deleteElement getIndex hashsize k

end RTPKeyHashTable

/-! ## What the table is for -/

/-- Where the cursor of a table stands: it may never have been set, and it may point to an element
that is gone. -/
inductive Cursor (K : Type) where
  | indeterminate
  | dangling
  | nowhere
  | onKey (k : K)
  deriving DecidableEq

/-- A dictionary in the order in which its keys were added, with a cursor. -/
structure CursorTable (K V : Type) where
  entries : List (K × V)
  cursor : Cursor K
  deriving DecidableEq

namespace CursorTable

variable {K V : Type} [DecidableEq K]

def new : CursorTable K V := ⟨[], .indeterminate⟩

def keys (s : CursorTable K V) : List K := s.entries.map Prod.fst

def cursorOf : Option K → Cursor K
  | none => .nowhere
  | some k => .onKey k

def entriesBefore (s : CursorTable K V) (k : K) : List (K × V) :=
  s.entries.takeWhile fun x => x.1 ≠ k

def entriesAfter (s : CursorTable K V) (k : K) : List (K × V) :=
  (s.entries.dropWhile fun x => x.1 ≠ k).tail

def valueOf (s : CursorTable K V) (k : K) : Option V :=
  (s.entries.find? fun x => x.1 = k).map Prod.snd

def gotoFirstElement (s : CursorTable K V) : CursorTable K V :=
  { s with cursor := cursorOf s.keys.head? }

def gotoLastElement (s : CursorTable K V) : CursorTable K V :=
  { s with cursor := cursorOf s.keys.getLast? }

def hasCurrentElement (s : CursorTable K V) : Option Bool :=
  match s.cursor with
  | .indeterminate => none
  | .dangling => some true
  | .nowhere => some false
  | .onKey _ => some true

def currentKey (s : CursorTable K V) : Option K :=
  match s.cursor with
  | .onKey k => some k
  | _ => none

/-- The cursor goes from a key to another one, and stays where there is no element. -/
def moveCursor (target : K → Option K) (s : CursorTable K V) : Option (CursorTable K V) :=
  match s.cursor with
  | .indeterminate => none
  | .dangling => none
  | .nowhere => some s
  | .onKey k => some { s with cursor := cursorOf (target k) }

def gotoNextElement (s : CursorTable K V) : Option (CursorTable K V) :=
  s.moveCursor fun k => (s.entriesAfter k).head?.map Prod.fst

def gotoPreviousElement (s : CursorTable K V) : Option (CursorTable K V) :=
  s.moveCursor fun k => (s.entriesBefore k).getLast?.map Prod.fst

variable (valid : K → Bool)

def gotoElement (k : K) (s : CursorTable K V) : CursorTable K V × Answer K V :=
  if valid k then
    if k ∈ s.keys then ({ s with cursor := .onKey k }, .done)
    else ({ s with cursor := .nowhere }, .failed .keyNotFound)
  else (s, .failed .functionReturnedInvalidHashIndex)

def deleteCurrentElement (s : CursorTable K V) : Option (CursorTable K V × Answer K V) :=
  match s.cursor with
  | .indeterminate => none
  | .dangling => none
  | .nowhere => some (s, .failed .noCurrentElement)
  | .onKey k =>
    some (⟨s.entriesBefore k ++ s.entriesAfter k,
      cursorOf ((s.entriesAfter k).head?.map Prod.fst)⟩, .done)

def deleteElement (k : K) (s : CursorTable K V) : Option (CursorTable K V × Answer K V) :=
  match s.gotoElement valid k with
  | (s, .failed e) => some (s, .failed e)
  | (s, _) => s.deleteCurrentElement

def addElement (k : K) (elem : V) (s : CursorTable K V) : CursorTable K V × Answer K V :=
  if valid k then
    if k ∈ s.keys then (s, .failed .keyAlreadyExists)
    else ({ s with entries := s.entries ++ [(k, elem)] }, .done)
  else (s, .failed .functionReturnedInvalidHashIndex)

/-- The elements are gone, and the cursor still points to one of them. -/
def clear (s : CursorTable K V) : CursorTable K V where
  entries := []
  cursor :=
    match s.cursor with
    | .onKey _ => .dangling
    | c => c

def perform (s : CursorTable K V) : TableCall K V → Option (CursorTable K V × Answer K V)
  | .gotoFirstElement => some (s.gotoFirstElement, .done)
  | .gotoLastElement => some (s.gotoLastElement, .done)
  | .hasCurrentElement => s.hasCurrentElement.map fun b => (s, .truth b)
  | .deleteCurrentElement => s.deleteCurrentElement
  | .getCurrentElement => (s.currentKey.bind s.valueOf).map fun v => (s, .element v)
  | .getCurrentKey => s.currentKey.map fun k => (s, .key k)
  | .gotoElement k => some (s.gotoElement valid k)
  | .hasElement k => some (s, .truth (valid k && decide (k ∈ s.keys)))
  | .gotoNextElement => s.gotoNextElement.map fun s => (s, .done)
  | .gotoPreviousElement => s.gotoPreviousElement.map fun s => (s, .done)
  | .clear => some (s.clear, .done)
  | .addElement k elem => some (s.addElement valid k elem)
  | .deleteElement k => s.deleteElement valid k

end CursorTable
end LocalCall.Jrtp
