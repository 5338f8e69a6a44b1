import LocalCall.Library.Transition
import LocalCall.Java.BufferedReader
import LocalCall.Socket.CtlSocket

/-! # The framing of the commands

Each command is written with CRLF behind it, and each line that is read is passed on, also the
unterminated one at the end of the stream. When the stream is cut off within the text of a
command, its beginning is passed on as if it were a command; a cut anywhere else loses only whole
commands.
-/
namespace LocalCall.Socket
open Java Transition
set_option autoImplicit false

/-- `writeCommand` is the same in both classes; `written` is what is on the stream. -/
def writeCommand (mOutputStream : Option Nat) (command : Option Text) (written : List UInt8) :
    List UInt8 :=
  match mOutputStream, command with
  | some _, some command => written ++ utf8.encodeAll (command ++ "\r\n".toList)
  | _, _ => written

def CtlSocket.writeCommand (command : Option Text) (s : CtlSocket) : List UInt8 → List UInt8 :=
  Socket.writeCommand s.streams.mOutputStream command

def CtlServerSocket.writeCommand (command : Option Text) (s : CtlServerSocket) :
    List UInt8 → List UInt8 :=
  Socket.writeCommand s.streams.mOutputStream command

def sent (commands : List Text) : List UInt8 :=
  commands.foldl (fun written command => writeCommand (some 0) (some command) written) []

/-- A sequence of commands, and the part of it that arrives, as the reads return it. -/
structure Transmission where
  commands : List Text
  plain : ∀ command ∈ commands, ∀ c ∈ command, c ≠ '\n' ∧ c ≠ '\r'
  cut : Nat
  reads : List (List UInt8)
  arrived : reads.flatten = (sent commands).take cut

/-- The stream is not cut off within the text of a command. A text that ends in the replacement
character may be cut within that: the decoder puts it there again. -/
def CutClean : List Text → Nat → Prop
  | [], _ => True
  | command :: commands, cut =>
    if cut < (utf8.encodeAll command).length then
      cut = 0 ∨ ∃ text, command = text ++ [replacement] ∧ (utf8.encodeAll text).length < cut
    else CutClean commands (cut - (utf8.encodeAll command).length - 2)

section Lines

theorem sent_by (client : CtlSocket) (server : CtlServerSocket) (commands : List Text)
    (hClient : client.streams.mOutputStream.isSome = true)
    (hServer : server.streams.mOutputStream.isSome = true) :
    commands.foldl (fun written command => client.writeCommand (some command) written) [] =
        sent commands ∧
      commands.foldl (fun written command => server.writeCommand (some command) written) [] =
        sent commands := by
  obtain ⟨_, hOut⟩ := Option.isSome_iff_exists.mp hClient
  obtain ⟨_, hOut'⟩ := Option.isSome_iff_exists.mp hServer
  constructor
  · simp only [CtlSocket.writeCommand, hOut]
    rfl
  · simp only [CtlServerSocket.writeCommand, hOut']
    rfl

theorem sent_eq (commands : List Text) :
    sent commands = commands.flatMap fun command => utf8.encodeAll (command ++ "\r\n".toList) := by
  have hFold : ∀ written : List UInt8,
      commands.foldl (fun written command => writeCommand (some 0) (some command) written) written =
        written ++ commands.flatMap fun command => utf8.encodeAll (command ++ "\r\n".toList) := by
    induction commands with
    | nil => intro written; exact (List.append_nil written).symm
    | cons command commands ih =>
      intro written
      rw [List.foldl_cons, ih, List.flatMap_cons, ← List.append_assoc]
      rfl
  exact hFold []

theorem sent_cons (command : Text) (commands : List Text) :
    sent (command :: commands) =
      utf8.encodeAll command ++ (utf8.encodeAll "\r\n".toList ++ sent commands) := by
  rw [sent_eq, sent_eq, List.flatMap_cons, utf8.encodeAll_append, List.append_assoc]

theorem lines_plain {text : Text} (h : ∀ c ∈ text, c ≠ '\n' ∧ c ≠ '\r') (line more : Text) :
    lines false line (text ++ more) = lines false (line ++ text) more := by
  induction text generalizing line with
  | nil => simp
  | cons c text ih =>
    obtain ⟨hLF, hCR⟩ := h c List.mem_cons_self
    rw [List.cons_append, lines, if_neg (fun hSkip => Bool.false_ne_true hSkip.1), if_neg hLF,
      if_neg hCR, ih fun c' hMem => h c' (List.mem_cons_of_mem c hMem)]
    simp

theorem lines_plain_end {text : Text} (h : ∀ c ∈ text, c ≠ '\n' ∧ c ≠ '\r') :
    lines false [] text = if text = [] then [] else [text] := by
  have hLines := lines_plain h [] []
  rwa [List.append_nil] at hLines

theorem lines_terminated {text : Text} (h : ∀ c ∈ text, c ≠ '\n' ∧ c ≠ '\r') (more : Text) :
    lines false [] (text ++ ("\r\n".toList ++ more)) = text :: lines false [] more := by
  rw [lines_plain h]
  rfl

theorem lines_halfTerminated {text : Text} (h : ∀ c ∈ text, c ≠ '\n' ∧ c ≠ '\r') :
    lines false [] (text ++ ['\r']) = [text] := by
  rw [lines_plain h]
  rfl

theorem textOf_encodeAll_append (text : Text) (bytes : List UInt8) :
    textOf [] (utf8.encodeAll text ++ bytes) = text ++ textOf [] bytes := by
  rw [textOf, utf8.decode_encodeAll_append, List.append_assoc]
  rfl

theorem eq_of_cut {before after text : Text} {c : Char} {cut : Nat}
    (hSame : before ++ c :: after = text ++ [replacement])
    (hLt : cut < (utf8.encodeAll before).length + (utf8.encode c).length)
    (hText : (utf8.encodeAll text).length < cut) :
    before = text ∧ c :: after = [replacement] := by
  obtain rfl | ⟨after', x, rfl⟩ := List.eq_nil_or_concat after
  · exact List.append_inj' hSame rfl
  · have hConcat : (before ++ c :: after') ++ [x] = text ++ [replacement] := by
      rw [← hSame]
      simp
    obtain ⟨rfl, -⟩ := List.append_inj' hConcat rfl
    rw [utf8.encodeAll_append, utf8.encodeAll_cons, List.length_append, List.length_append] at hText
    omega

theorem lines_cut {command : Text} (h : ∀ c ∈ command, c ≠ '\n' ∧ c ≠ '\r') {cut : Nat}
    (hCut : cut < (utf8.encodeAll command).length) (commands : List Text) :
    lines false [] (textOf [] ((utf8.encodeAll command).take cut)) <+: command :: commands ↔
      cut = 0 ∨ ∃ text, command = text ++ [replacement] ∧ (utf8.encodeAll text).length < cut := by
  obtain ⟨before, c, after, rfl, hLe, hLt, hDecode⟩ := utf8.decode_take command cut hCut
  have hBefore : ∀ c ∈ before, c ≠ '\n' ∧ c ≠ '\r' := fun c' hMem =>
    h c' (List.mem_append_left _ hMem)
  rw [textOf, hDecode]
  dsimp only
  by_cases hAt : cut = (utf8.encodeAll before).length
  · rw [hAt, Nat.sub_self, List.take_zero, flush, if_pos rfl, List.append_nil,
      lines_plain_end hBefore]
    by_cases hEmpty : before = []
    · subst hEmpty
      exact iff_of_true (List.nil_prefix) (Or.inl rfl)
    · rw [if_neg hEmpty]
      refine iff_of_false ?_ ?_
      · intro hPrefix
        obtain ⟨hSame, -⟩ := List.cons_prefix_cons.mp hPrefix
        exact List.cons_ne_nil c after (List.self_eq_append_right.mp hSame)
      · rintro (hZero | ⟨text, hSame, hText⟩)
        · exact hEmpty (utf8.encodeAll_eq_nil (List.length_eq_zero_iff.mp hZero))
        · obtain ⟨rfl, -⟩ := eq_of_cut hSame (hAt ▸ hLt) hText
          exact Nat.lt_irrefl _ hText
  · have hKept : (utf8.encode c).take (cut - (utf8.encodeAll before).length) ≠ [] := by
      intro hNil
      obtain hZero | hNil := List.take_eq_nil_iff.mp hNil
      · omega
      · exact utf8.encode_ne_nil c hNil
    have hPlain : ∀ c ∈ before ++ [replacement], c ≠ '\n' ∧ c ≠ '\r' := by
      intro c' hMem
      rcases List.mem_append.mp hMem with hMem | hMem
      · exact hBefore c' hMem
      · rw [List.mem_singleton.mp hMem]
        decide
    rw [flush, if_neg hKept, lines_plain_end hPlain, if_neg (List.concat_ne_nil _ _)]
    constructor
    · intro hPrefix
      obtain ⟨hSame, -⟩ := List.cons_prefix_cons.mp hPrefix
      exact Or.inr ⟨before, hSame.symm, by omega⟩
    · rintro (hZero | ⟨text, hSame, hText⟩)
      · omega
      · obtain ⟨rfl, hLast⟩ := eq_of_cut hSame hLt hText
        rw [hLast]
        exact List.cons_prefix_cons.mpr ⟨rfl, List.nil_prefix⟩

theorem cutClean_zero (commands : List Text) : CutClean commands 0 := by
  induction commands with
  | nil => trivial
  | cons command commands ih =>
    rw [CutClean]
    split
    · exact Or.inl rfl
    · rw [Nat.zero_sub, Nat.zero_sub]
      exact ih

theorem lines_sent_iff {commands : List Text}
    (h : ∀ command ∈ commands, ∀ c ∈ command, c ≠ '\n' ∧ c ≠ '\r') (cut : Nat) :
    lines false [] (textOf [] ((sent commands).take cut)) <+: commands ↔
      CutClean commands cut := by
  induction commands generalizing cut with
  | nil =>
    rw [CutClean, iff_true, sent, List.foldl_nil, List.take_nil]
    exact List.nil_prefix
  | cons command commands ih =>
    have hCommand := h command List.mem_cons_self
    have hCommands := fun command' hMem => h command' (List.mem_cons_of_mem command hMem)
    rw [CutClean, sent_cons]
    split
    · rename_i hCut
      rw [List.take_append_of_le_length (Nat.le_of_lt hCut)]
      exact lines_cut hCommand hCut commands
    · rename_i hCut
      obtain ⟨k, rfl⟩ := Nat.exists_eq_add_of_le (Nat.le_of_not_lt hCut)
      rw [List.take_length_add_append, textOf_encodeAll_append, Nat.add_sub_cancel_left]
      match k with
      | 0 =>
        -- the whole text has arrived, and nothing of its line end
        rw [List.take_zero]
        refine iff_of_true ?_ (cutClean_zero commands)
        change lines false [] (command ++ []) <+: _
        rw [List.append_nil, lines_plain_end hCommand]
        split
        · exact List.nil_prefix
        · exact List.cons_prefix_cons.mpr ⟨rfl, List.nil_prefix⟩
      | 1 =>
        refine iff_of_true ?_ (cutClean_zero commands)
        change lines false [] (command ++ ['\r']) <+: _
        rw [lines_halfTerminated hCommand]
        exact List.cons_prefix_cons.mpr ⟨rfl, List.nil_prefix⟩
      | k + 2 =>
        have hTake : (utf8.encodeAll "\r\n".toList ++ sent commands).take (k + 2) =
            utf8.encodeAll "\r\n".toList ++ (sent commands).take k := rfl
        rw [hTake, textOf_encodeAll_append, lines_terminated hCommand, List.cons_prefix_cons]
        rw [and_iff_right rfl, Nat.add_sub_cancel]
        exact ih hCommands k

end Lines

section Receiving

/-- What `readLine` may answer with this reader; an exception leaves the reader as it is. -/
def receive (answer : Answer) (r : BufferedReader) : Option BufferedReader :=
  match answer with
  | .line ret => if r.readLine.1 = some ret then some r.readLine.2 else none
  | .eof => if r.readLine.1 = none then some r.readLine.2 else none
  | .done => some r
  | .threw => some r

def taken : Answer → List Text
  | .line ret => [ret]
  | _ => []

theorem receive_toCome {answer : Answer} {r r' : BufferedReader}
    (h : receive answer r = some r') : r.toCome = taken answer ++ r'.toCome := by
  cases answer with
  | line ret =>
    obtain ⟨hRead, hRest⟩ := Option.ite_none_right_eq_some.mp h
    cases hRest
    rw [r.readLine_toCome, hRead]
    rfl
  | eof =>
    obtain ⟨hRead, hRest⟩ := Option.ite_none_right_eq_some.mp h
    cases hRest
    rw [r.readLine_toCome, hRead]
    rfl
  | done => cases h; rfl
  | threw => cases h; rfl

def CallBack.remote : CallBack → Option Text
  | .line ret => some ret
  | _ => none

structure ClientReading where
  socket : CtlSocket
  reader : BufferedReader

def ClientReading.step (s : ClientReading) : CtlSocket.Step → Option ClientReading
  | .thread answer =>
    (receive answer s.reader).bind fun reader =>
      (s.socket.threadStep answer).map fun socket => ⟨socket, reader⟩
  | .connect answer => (s.socket.connectStep answer).map fun socket => { s with socket }
  | .closer threw => some { s with socket := s.socket.closerStep threw }

structure ServerReading where
  socket : CtlServerSocket
  readers : Nat → BufferedReader

def ServerReading.step (s : ServerReading) : CtlServerSocket.Step → Option ServerReading
  | .thread answer =>
    (receive answer (s.readers s.socket.current)).bind fun reader =>
      (s.socket.threadStep answer).map fun socket =>
        ⟨socket, Function.update s.readers s.socket.current reader⟩
  | .closer threw => (s.socket.closerStep threw).map fun socket => { s with socket }

namespace CtlSocket

/-- The remote lines passed to `newCommand`. -/
def remoteLines (s : CtlSocket) : List Text := s.issued.filterMap CallBack.remote

/-- With the line that is about to be passed on. -/
def linesRead (s : CtlSocket) : List Text :=
  s.remoteLines ++ match s.thread with
    | .deliver ret => [ret]
    | _ => []

theorem remoteLines_prefix (s : CtlSocket) : s.remoteLines <+: s.linesRead :=
  List.prefix_append _ _

theorem linesRead_threadStep {answer : Answer} {s s' : CtlSocket}
    (hStep : s.threadStep answer = some s') : s'.linesRead = s.linesRead ++ taken answer := by
  simp only [threadStep] at hStep
  split at hStep
  all_goals try split at hStep
  all_goals cases hStep
  all_goals simp_all [linesRead, remoteLines, CallBack.remote, issue, caught, leave, taken]

theorem linesRead_connectStep {answer : ConnectAnswer} {s s' : CtlSocket}
    (hStep : s.connectStep answer = some s') : s'.linesRead = s.linesRead := by
  simp only [connectStep] at hStep
  split at hStep
  all_goals try split at hStep
  all_goals cases hStep
  all_goals simp_all [linesRead, remoteLines, leave]

theorem linesRead_closerStep (threw : Bool) (s : CtlSocket) :
    (s.closerStep threw).linesRead = s.linesRead := by
  rw [closerStep]
  split <;> rfl

end CtlSocket

namespace CtlServerSocket

/-- The remote lines of a connection that were passed to `newCommand`. -/
def remoteLines (connection : Nat) (s : CtlServerSocket) : List Text :=
  s.issued.filterMap fun cb => if cb.1 = connection then cb.2.remote else none

/-- With the line that is about to be passed on. -/
def linesRead (connection : Nat) (s : CtlServerSocket) : List Text :=
  s.remoteLines connection ++ match s.thread with
    | .deliver (some ret) => if s.current = connection then [ret] else []
    | _ => []

theorem remoteLines_prefix (connection : Nat) (s : CtlServerSocket) :
    s.remoteLines connection <+: s.linesRead connection := List.prefix_append _ _

theorem linesRead_threadStep {answer : Answer} {s s' : CtlServerSocket}
    (hStep : s.threadStep answer = some s') (connection : Nat) :
    s'.linesRead connection =
      s.linesRead connection ++ if s.current = connection then taken answer else [] := by
  simp only [threadStep] at hStep
  split at hStep
  all_goals try split at hStep
  all_goals cases hStep
  all_goals simp [linesRead, remoteLines, CallBack.remote, issue, caught, taken, current, *]
  all_goals by_cases hCurrent : s.connections - 1 = connection
  all_goals simp [hCurrent]

theorem linesRead_closerStep {threw : Bool} {s s' : CtlServerSocket}
    (hStep : s.closerStep threw = some s') (connection : Nat) :
    s'.linesRead connection = s.linesRead connection := by
  obtain ⟨hThread, hConnections, hIssued⟩ := closerStep_frame hStep
  rw [linesRead, linesRead, remoteLines, remoteLines, current, current, hThread, hConnections,
    hIssued]

end CtlServerSocket
theorem Transmission.toCome (t : Transmission) :
    (BufferedReader.new t.reads).toCome =
      lines false [] (textOf [] ((sent t.commands).take t.cut)) := by
  rw [← t.arrived]
  rfl

theorem Transmission.toCome_prefix_iff (t : Transmission) :
    (BufferedReader.new t.reads).toCome <+: t.commands ↔ CutClean t.commands t.cut := by
  rw [t.toCome]
  exact lines_sent_iff t.plain t.cut

namespace ClientReading

def connecting (host : Text) (port : Int) (t : Transmission) : ClientReading :=
  ⟨CtlSocket.new.connectServer host port, .new t.reads⟩

/-- What was passed on is the beginning of what was written. -/
def Delivered (commands : List Text) (s : ClientReading) : Prop :=
  s.socket.remoteLines <+: commands

/-- Nothing is lost between the reader and the callback, and nothing is added. -/
def InOrder (all : List Text) (s : ClientReading) : Prop :=
  s.socket.linesRead ++ s.reader.toCome = all

theorem InOrder.step {all : List Text} {s s' : ClientReading} {e : CtlSocket.Step}
    (h : s.InOrder all) (hStep : s.step e = some s') : s'.InOrder all := by
  cases e with
  | thread answer =>
    obtain ⟨reader, hReceive, hRest⟩ := Option.bind_eq_some_iff.mp hStep
    obtain ⟨socket, hThread, rfl⟩ := Option.map_eq_some_iff.mp hRest
    rw [InOrder, receive_toCome hReceive] at h
    rw [InOrder, CtlSocket.linesRead_threadStep hThread, List.append_assoc]
    exact h
  | connect answer =>
    obtain ⟨socket, hConnect, rfl⟩ := Option.map_eq_some_iff.mp hStep
    rw [InOrder, CtlSocket.linesRead_connectStep hConnect]
    exact h
  | closer threw =>
    cases hStep
    rw [InOrder, CtlSocket.linesRead_closerStep]
    exact h

def connectSteps : List CtlSocket.Step :=
  .connect .connected :: List.replicate 3 (.thread .done)

def readSteps (all : List Text) : List CtlSocket.Step :=
  all.flatMap fun line => [.thread .done, .thread (.line line), .thread .done]

def turn (line : Text) (s : ClientReading) : ClientReading :=
  ⟨{ s.socket.issue (.line line) with thread := .readLine }, s.reader.readLine.2⟩

theorem run_turn {s : ClientReading} {line : Text} {rest : List Text}
    (hThread : s.socket.thread = .readLine)
    (hStream : s.socket.streams.mInputStream.isSome = true)
    (hCome : s.reader.toCome = line :: rest) :
    run ClientReading.step s [.thread .done, .thread (.line line), .thread .done] =
      some (s.turn line) := by
  obtain ⟨hRead, -⟩ := BufferedReader.readLine_cons hCome
  simp [ClientReading.step, receive, CtlSocket.threadStep, hThread, hStream, hRead, turn,
    CtlSocket.issue]

theorem remoteLines_turn (line : Text) (s : ClientReading) :
    (s.turn line).socket.remoteLines = s.socket.remoteLines ++ [line] :=
  List.filterMap_append

theorem run_readSteps {all : List Text} {s : ClientReading}
    (hThread : s.socket.thread = .readLine)
    (hStream : s.socket.streams.mInputStream.isSome = true) (hCome : s.reader.toCome = all) :
    ∃ s', run ClientReading.step s (readSteps all) = some s' ∧
      s'.socket.remoteLines = s.socket.remoteLines ++ all := by
  induction all generalizing s with
  | nil => exact ⟨s, rfl, (List.append_nil _).symm⟩
  | cons line rest ih =>
    obtain ⟨-, hRest⟩ := BufferedReader.readLine_cons hCome
    obtain ⟨s', hRun, hLines⟩ := ih (s := s.turn line) rfl hStream hRest
    refine ⟨s', ?_, ?_⟩
    · rw [readSteps, List.flatMap_cons, run_append, run_turn hThread hStream hCome]
      exact hRun
    · rw [hLines, remoteLines_turn, List.append_assoc, List.singleton_append]

theorem always_iff_cutClean (host : Text) (port : Int) (t : Transmission) :
    (∀ steps, Always ClientReading.step (Delivered t.commands) (connecting host port t) steps) ↔
      CutClean t.commands t.cut := by
  rw [← t.toCome_prefix_iff]
  constructor
  · intro hAlways
    obtain ⟨s, hRun, hLines⟩ := run_readSteps
      (s := ⟨{ CtlSocket.new.connectServer host port with
          streams := ⟨some 0, some 0, some 0⟩, thread := .readLine, issued := [.connected] },
        .new t.reads⟩) rfl rfl rfl
    have hWhole : run ClientReading.step (connecting host port t)
        (connectSteps ++ readSteps (BufferedReader.new t.reads).toCome) = some s := by
      rw [run_append]
      exact hRun
    have hLast := (hAlways _).last hWhole
    rw [Delivered, hLines] at hLast
    exact hLast
  · intro hPrefix steps
    have hFirst : InOrder (BufferedReader.new t.reads).toCome (connecting host port t) := rfl
    apply always_of_invariant _ _ hFirst
    · intro s e s' h hStep
      exact h.step hStep
    · intro s h
      have hRead : s.socket.linesRead <+: (BufferedReader.new t.reads).toCome := ⟨_, h⟩
      exact (s.socket.remoteLines_prefix.trans hRead).trans hPrefix

end ClientReading

namespace ServerReading

/-- The transmission of each connection, in the order in which they are accepted. -/
def opened (port : Nat) (ts : Nat → Transmission) : ServerReading :=
  ⟨CtlServerSocket.opened port, fun connection => .new (ts connection).reads⟩

/-- Of each connection, what was passed on is the beginning of what was written. -/
def Delivered (commands : Nat → List Text) (s : ServerReading) : Prop :=
  ∀ connection, s.socket.remoteLines connection <+: commands connection

def InOrder (all : Nat → List Text) (s : ServerReading) : Prop :=
  ∀ connection, s.socket.linesRead connection ++ (s.readers connection).toCome = all connection

theorem InOrder.step {all : Nat → List Text} {s s' : ServerReading} {e : CtlServerSocket.Step}
    (h : s.InOrder all) (hStep : s.step e = some s') : s'.InOrder all := by
  cases e with
  | thread answer =>
    obtain ⟨reader, hReceive, hRest⟩ := Option.bind_eq_some_iff.mp hStep
    obtain ⟨socket, hThread, rfl⟩ := Option.map_eq_some_iff.mp hRest
    intro connection
    have hLines := h connection
    rw [CtlServerSocket.linesRead_threadStep hThread]
    dsimp only
    by_cases hCurrent : s.socket.current = connection
    · subst hCurrent
      rw [receive_toCome hReceive] at hLines
      rw [if_pos rfl, Function.update_self, List.append_assoc]
      exact hLines
    · rw [if_neg hCurrent, List.append_nil, Function.update_of_ne (Ne.symm hCurrent)]
      exact hLines
  | closer threw =>
    obtain ⟨socket, hCloser, rfl⟩ := Option.map_eq_some_iff.mp hStep
    intro connection
    rw [CtlServerSocket.linesRead_closerStep hCloser]
    exact h connection

def Quiet (e : CtlServerSocket.Step) : Prop := e = .thread .done ∨ e = .thread .threw

theorem run_quiet {steps : List CtlServerSocket.Step} (h : ∀ e ∈ steps, Quiet e)
    (s : ServerReading) :
    run ServerReading.step s steps =
      (run CtlServerSocket.step s.socket steps).map fun socket => ⟨socket, s.readers⟩ := by
  induction steps generalizing s with
  | nil => rfl
  | cons e steps ih =>
    have hStep : s.step e = (s.socket.step e).map fun socket => ⟨socket, s.readers⟩ := by
      rcases h e List.mem_cons_self with rfl | rfl
      · simp [ServerReading.step, CtlServerSocket.step, receive]
      · simp [ServerReading.step, CtlServerSocket.step, receive]
    rw [run_cons, run_cons, hStep]
    cases s.socket.step e with
    | none => rfl
    | some socket => exact ih (fun e' hMem => h e' (List.mem_cons_of_mem e hMem)) ⟨socket, s.readers⟩

/-- A connection whose streams cannot be set up, and the rest of the turn of the outer loop. -/
def skipSteps : List CtlServerSocket.Step :=
  .thread .done :: .thread .done :: .thread .threw :: List.replicate 5 (.thread .done)

def acceptSteps : List CtlServerSocket.Step := List.replicate 5 (.thread .done)

def readSteps (all : List Text) : List CtlServerSocket.Step :=
  all.flatMap fun line => [.thread .done, .thread (.line line), .thread .done]

/-- At the test of the outer loop, after this many connections that came to nothing. -/
def waiting (port connections : Nat) (readers : Nat → BufferedReader) : ServerReading :=
  ⟨{ CtlServerSocket.opened port with connections }, readers⟩

/-- In the reading loop of the connection accepted next. -/
def reading (port connections : Nat) (readers : Nat → BufferedReader) : ServerReading :=
  ⟨{ CtlServerSocket.opened port with
      connections := connections + 1
      streams := ⟨some connections, some connections, some connections⟩
      thread := .readLine
      issued := [(connections, .connected)] }, readers⟩

theorem run_skipSteps (port connections : Nat) (readers : Nat → BufferedReader) :
    run ServerReading.step (waiting port connections readers) skipSteps =
      some (waiting port (connections + 1) readers) := by
  rw [run_quiet]
  · rfl
  · simp [skipSteps, List.replicate, Quiet]

theorem run_acceptSteps (port connections : Nat) (readers : Nat → BufferedReader) :
    run ServerReading.step (waiting port connections readers) acceptSteps =
      some (reading port connections readers) := by
  rw [run_quiet]
  · rfl
  · simp [acceptSteps, Quiet]

theorem exists_run_reading (port : Nat) (ts : Nat → Transmission) (connection : Nat) :
    ∃ steps, run ServerReading.step (opened port ts) steps =
      some (waiting port connection (opened port ts).readers) := by
  induction connection with
  | zero => exact ⟨[], rfl⟩
  | succ connection ih =>
    obtain ⟨steps, hRun⟩ := ih
    refine ⟨steps ++ skipSteps, ?_⟩
    rw [run_append, hRun, Option.bind_some, run_skipSteps]

def turn (line : Text) (s : ServerReading) : ServerReading :=
  ⟨{ s.socket.issue (.line line) with thread := .readLine },
    Function.update s.readers s.socket.current (s.readers s.socket.current).readLine.2⟩

theorem run_turn {s : ServerReading} {line : Text} {rest : List Text}
    (hThread : s.socket.thread = .readLine)
    (hStream : s.socket.streams.mInputStream.isSome = true)
    (hCome : (s.readers s.socket.current).toCome = line :: rest) :
    run ServerReading.step s [.thread .done, .thread (.line line), .thread .done] =
      some (s.turn line) := by
  obtain ⟨hRead, -⟩ := BufferedReader.readLine_cons hCome
  rw [CtlServerSocket.current] at hRead
  simp [ServerReading.step, receive, CtlServerSocket.threadStep, hThread, hStream, hRead, turn,
    CtlServerSocket.issue, CtlServerSocket.current]

theorem remoteLines_turn (line : Text) (s : ServerReading) :
    (s.turn line).socket.remoteLines s.socket.current =
      s.socket.remoteLines s.socket.current ++ [line] := by
  refine List.filterMap_append.trans (congrArg _ ?_)
  simp [CallBack.remote]

theorem run_readSteps {all : List Text} {s : ServerReading}
    (hThread : s.socket.thread = .readLine)
    (hStream : s.socket.streams.mInputStream.isSome = true)
    (hCome : (s.readers s.socket.current).toCome = all) :
    ∃ s', run ServerReading.step s (readSteps all) = some s' ∧
      s'.socket.remoteLines s.socket.current =
        s.socket.remoteLines s.socket.current ++ all := by
  induction all generalizing s with
  | nil => exact ⟨s, rfl, (List.append_nil _).symm⟩
  | cons line rest ih =>
    obtain ⟨-, hRest⟩ := BufferedReader.readLine_cons hCome
    have hNext : ((s.turn line).readers (s.turn line).socket.current).toCome = rest :=
      (congrArg BufferedReader.toCome (Function.update_self _ _ _)).trans hRest
    obtain ⟨s', hRun, hLines⟩ := ih (s := s.turn line) rfl hStream hNext
    refine ⟨s', ?_, ?_⟩
    · rw [readSteps, List.flatMap_cons, run_append, run_turn hThread hStream hCome]
      exact hRun
    · calc s'.socket.remoteLines s.socket.current
          = (s.turn line).socket.remoteLines s.socket.current ++ rest := hLines
        _ = s.socket.remoteLines s.socket.current ++ (line :: rest) := by
          rw [remoteLines_turn, List.append_assoc, List.singleton_append]

theorem always_iff_cutClean (port : Nat) (ts : Nat → Transmission) :
    (∀ steps, Always ServerReading.step (Delivered fun connection => (ts connection).commands)
        (opened port ts) steps) ↔
      ∀ connection, CutClean (ts connection).commands (ts connection).cut := by
  constructor
  · intro hAlways connection
    rw [← (ts connection).toCome_prefix_iff]
    obtain ⟨steps, hWaiting⟩ := exists_run_reading port ts connection
    obtain ⟨s, hRun, hLines⟩ :=
      run_readSteps (s := reading port connection (opened port ts).readers) rfl rfl rfl
    have hWhole : run ServerReading.step (opened port ts) (steps ++ (acceptSteps ++
        readSteps (BufferedReader.new (ts connection).reads).toCome)) = some s := by
      rw [run_append, hWaiting, Option.bind_some, run_append, run_acceptSteps]
      exact hRun
    have hNone : (reading port connection (opened port ts).readers).socket.remoteLines
        connection = [] := by
      simp [reading, CtlServerSocket.remoteLines, CallBack.remote]
    have hAll : s.socket.remoteLines connection =
        (BufferedReader.new (ts connection).reads).toCome := by
      refine hLines.trans ?_
      change (reading port connection (opened port ts).readers).socket.remoteLines connection ++
        _ = _
      rw [hNone]
      rfl
    have hLast := (hAlways _).last hWhole connection
    rw [hAll] at hLast
    exact hLast
  · intro hClean steps
    have hFirst : InOrder (fun connection => (BufferedReader.new (ts connection).reads).toCome)
        (opened port ts) := fun _ => rfl
    apply always_of_invariant _ _ hFirst
    · intro s e s' h hStep
      exact h.step hStep
    · intro s h connection
      have hRead : s.socket.linesRead connection <+:
          (BufferedReader.new (ts connection).reads).toCome := ⟨_, h connection⟩
      have hPrefix := (ts connection).toCome_prefix_iff.mpr (hClean connection)
      exact ((s.socket.remoteLines_prefix connection).trans hRead).trans hPrefix

end ServerReading

/-- In either role: what was passed on is in every run the beginning of what was written, exactly
when the stream is not cut off within a command. -/
theorem always_delivered_iff (host : Text) (port : Int) (t : Transmission) (serverPort : Nat)
    (ts : Nat → Transmission) :
    ((∀ steps, Always ClientReading.step (ClientReading.Delivered t.commands)
        (ClientReading.connecting host port t) steps) ↔ CutClean t.commands t.cut) ∧
      ((∀ steps, Always ServerReading.step
          (ServerReading.Delivered fun connection => (ts connection).commands)
          (ServerReading.opened serverPort ts) steps) ↔
        ∀ connection, CutClean (ts connection).commands (ts connection).cut) :=
  ⟨ClientReading.always_iff_cutClean host port t,
    ServerReading.always_iff_cutClean serverPort ts⟩

theorem plain_of_all {text : Text} (hAll : (text.all fun c => c ≠ '\n' ∧ c ≠ '\r') = true) :
    ∀ command ∈ [text], ∀ c ∈ command, c ≠ '\n' ∧ c ≠ '\r' := by
  rw [List.forall_mem_singleton]
  simpa only [List.all_eq_true, decide_eq_true_eq] using hAll

/-- The handshake of `192.168.1.12`, cut off before the last digit of the address, in two reads. -/
def cutHandshake : Transmission where
  commands := ["socket connected:192.168.1.12:40000".toList]
  plain := plain_of_all (by decide +kernel)
  cut := 28
  reads := [("socket ".toList.map fun c => UInt8.ofNat c.toNat),
    ("connected:192.168.1.1".toList.map fun c => UInt8.ofNat c.toNat)]
  arrived := by decide +kernel

theorem not_always_delivered_cutHandshake :
    ¬ Always ServerReading.step
      (ServerReading.Delivered fun _ => cutHandshake.commands)
      (ServerReading.opened 5000 fun _ => cutHandshake)
      (List.replicate 6 (.thread .done) ++
        [.thread (.line "socket connected:192.168.1.1".toList), .thread .done]) := by
  intro hAlways
  have hRun : ((run ServerReading.step (ServerReading.opened 5000 fun _ => cutHandshake)
      (List.replicate 6 (.thread .done) ++
        [.thread (.line "socket connected:192.168.1.1".toList), .thread .done])).map
      fun s => s.socket.remoteLines 0) = some ["socket connected:192.168.1.1".toList] := by
    decide +kernel
  obtain ⟨s, hReached, hLines⟩ := Option.map_eq_some_iff.mp hRun
  have hLast := hAlways.last hReached 0
  rw [hLines] at hLast
  revert hLast
  decide

end Receiving

end LocalCall.Socket
