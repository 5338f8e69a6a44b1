import LocalCall.Java.Text
import LocalCall.Library.PrefixCode

/-! # `BufferedReader`

It reads through an `InputStreamReader` with the default character set, UTF-8. What the decoder has
kept when the stream ends was the beginning of a character, and the replacement character takes
its place. The decoder is only ever given what the other end wrote, so nothing is said of bytes
that no character has.
-/
namespace LocalCall.Java
set_option autoImplicit false

theorem utf8_complete_encode (c : Char) :
    (String.utf8EncodeChar c).toByteArray.utf8DecodeChar? 0 = some c := by
  have hDecode := ByteArray.utf8DecodeChar?_utf8EncodeChar_append (b := ByteArray.empty) (c := c)
  rwa [ByteArray.append_empty] at hDecode

theorem utf8_complete_part {c : Char} {pre post : List UInt8}
    (hSplit : String.utf8EncodeChar c = pre ++ post) (hPost : post ≠ []) :
    pre.toByteArray.utf8DecodeChar? 0 = none := by
  rw [← Option.not_isSome_iff_eq_none]
  intro hSome
  obtain ⟨c', hDecode⟩ := Option.isSome_iff_exists.mp hSome
  obtain ⟨l, hPre⟩ := ByteArray.exists_of_utf8DecodeChar?_eq_some hDecode
  -- the whole code word would begin with the one of the character found in its part
  have hWhole : (String.utf8EncodeChar c).toByteArray =
      (String.utf8EncodeChar c').toByteArray ++ (l ++ post.toByteArray) := by
    rw [hSplit, List.toByteArray_append, hPre, ByteArray.append_assoc]
  have hSame := utf8_complete_encode c
  rw [hWhole, ByteArray.utf8DecodeChar?_utf8EncodeChar_append] at hSame
  obtain rfl := Option.some.inj hSame
  have hSize := congrArg ByteArray.size hWhole
  rw [ByteArray.size_append, ByteArray.size_append, List.size_toByteArray,
    List.size_toByteArray] at hSize
  have hPositive := List.length_pos_iff.mpr hPost
  omega

def utf8 : PrefixCode Char UInt8 where
  encode := String.utf8EncodeChar
  complete bytes := bytes.toByteArray.utf8DecodeChar? 0
  encode_ne_nil _ := String.utf8EncodeChar_ne_nil
  complete_encode := utf8_complete_encode
  complete_part _ _ _ := utf8_complete_part

def replacement : Char := '\uFFFD'

/-- What the decoder makes of the units kept at the end of the stream. -/
def flush (kept : List UInt8) : Text := if kept = [] then [] else [replacement]

def textOf (kept bytes : List UInt8) : Text :=
  (utf8.decode kept bytes).1 ++ flush (utf8.decode kept bytes).2

theorem textOf_append (kept xs ys : List UInt8) :
    textOf kept (xs ++ ys) =
      (utf8.decode kept xs).1 ++ textOf (utf8.decode kept xs).2 ys := by
  rw [textOf, utf8.decode_append, List.append_assoc]
  rfl

/-- The lines of a text, after the characters of a line that has begun: a line ends at LF, CR or
CRLF, and the last one may be unterminated. -/
def lines (skipLF : Bool) (line : Text) : Text → List Text
  | [] => if line = [] then [] else [line]
  | c :: chars =>
    if skipLF ∧ c = '\n' then lines false line chars
    else if c = '\n' then line :: lines false [] chars
    else if c = '\r' then line :: lines true [] chars
    else lines false (line ++ [c]) chars

/-- `reads` is what the socket will return, one array after another until the stream ends. -/
structure BufferedReader where
  reads : List (List UInt8)
  kept : List UInt8
  chars : Text
  skipLF : Bool
  deriving DecidableEq

inductive Scan where
  | found (line chars : Text) (skipLF : Bool)
  | more (line : Text) (skipLF : Bool)

def scan (skipLF : Bool) (line : Text) : Text → Scan
  | [] => .more line skipLF
  | c :: chars =>
    if skipLF ∧ c = '\n' then scan false line chars
    else if c = '\n' then .found line chars false
    else if c = '\r' then .found line chars true
    else scan false (line ++ [c]) chars

namespace BufferedReader

def new (reads : List (List UInt8)) : BufferedReader := ⟨reads, [], [], false⟩

def fill (kept : List UInt8) (skipLF : Bool) (line : Text) :
    List (List UInt8) → Option Text × BufferedReader
  | [] =>
    match scan skipLF line (flush kept) with
    | .found line chars skipLF => (some line, ⟨[], [], chars, skipLF⟩)
    | .more line skipLF => (if line = [] then none else some line, ⟨[], [], [], skipLF⟩)
  | bytes :: reads =>
    match scan skipLF line (utf8.decode kept bytes).1 with
    | .found line chars skipLF =>
      (some line, ⟨reads, (utf8.decode kept bytes).2, chars, skipLF⟩)
    | .more line skipLF => fill (utf8.decode kept bytes).2 skipLF line reads

def readLine (r : BufferedReader) : Option Text × BufferedReader :=
  match scan r.skipLF [] r.chars with
  | .found line chars skipLF => (some line, { r with chars, skipLF })
  | .more line skipLF => fill r.kept skipLF line r.reads

def toCome (r : BufferedReader) : List Text :=
  lines r.skipLF [] (r.chars ++ textOf r.kept r.reads.flatten)

theorem lines_scan (skipLF : Bool) (line chars more : Text) :
    lines skipLF line (chars ++ more) =
      match scan skipLF line chars with
      | .found line chars skipLF => line :: lines skipLF [] (chars ++ more)
      | .more line skipLF => lines skipLF line more := by
  induction chars generalizing skipLF line with
  | nil => rfl
  | cons c chars ih =>
    rw [scan, List.cons_append, lines]
    split
    · exact ih false line
    · split
      · rfl
      · split
        · rfl
        · exact ih false (line ++ [c])

theorem lines_of_scan {skipLF skipLF' : Bool} {line line' chars chars' : Text}
    (h : scan skipLF line chars = .found line' chars' skipLF') (more : Text) :
    lines skipLF line (chars ++ more) = line' :: lines skipLF' [] (chars' ++ more) := by
  rw [lines_scan, h]

theorem lines_of_scan_more {skipLF skipLF' : Bool} {line line' chars : Text}
    (h : scan skipLF line chars = .more line' skipLF') (more : Text) :
    lines skipLF line (chars ++ more) = lines skipLF' line' more := by
  rw [lines_scan, h]

theorem fill_lines (kept : List UInt8) (skipLF : Bool) (line : Text) (reads : List (List UInt8)) :
    lines skipLF line (textOf kept reads.flatten) =
      (fill kept skipLF line reads).1.toList ++ (fill kept skipLF line reads).2.toCome := by
  induction reads generalizing kept skipLF line with
  | nil =>
    rw [fill, List.flatten_nil, textOf, utf8.decode_nil, List.nil_append]
    cases hScan : scan skipLF line (flush kept) with
    | found line chars skipLF =>
      have hLines := lines_of_scan hScan []
      rw [List.append_nil, List.append_nil] at hLines
      rw [hLines]
      simp [toCome, textOf, flush]
    | more line skipLF =>
      have hLines := lines_of_scan_more hScan []
      rw [List.append_nil] at hLines
      rw [hLines, lines]
      by_cases hLine : line = []
      · simp [hLine, toCome, textOf, flush, lines]
      · simp [hLine, toCome, textOf, flush, lines]
  | cons bytes reads ih =>
    rw [fill, List.flatten_cons, textOf_append]
    cases hScan : scan skipLF line (utf8.decode kept bytes).1 with
    | found line chars skipLF =>
      rw [lines_of_scan hScan]
      rfl
    | more line skipLF =>
      rw [lines_of_scan_more hScan]
      exact ih _ skipLF line

theorem fill_none {kept : List UInt8} {skipLF : Bool} {line : Text} {reads : List (List UInt8)}
    (h : (fill kept skipLF line reads).1 = none) :
    (fill kept skipLF line reads).2.toCome = [] := by
  induction reads generalizing kept skipLF line with
  | nil =>
    rw [fill] at h ⊢
    split at h
    · cases h
    · simp [toCome, textOf, flush, lines]
  | cons bytes reads ih =>
    rw [fill] at h ⊢
    split at h
    · cases h
    · exact ih h

theorem readLine_toCome (r : BufferedReader) :
    r.toCome = r.readLine.1.toList ++ r.readLine.2.toCome := by
  rw [toCome, readLine]
  cases hScan : scan r.skipLF [] r.chars with
  | found line chars skipLF =>
    rw [lines_of_scan hScan]
    rfl
  | more line skipLF =>
    rw [lines_of_scan_more hScan]
    exact fill_lines r.kept skipLF line r.reads

theorem readLine_none {r : BufferedReader} (h : r.readLine.1 = none) : r.toCome = [] := by
  have hLines := r.readLine_toCome
  rw [h, Option.toList_none, List.nil_append] at hLines
  rw [readLine] at h
  split at h
  · cases h
  · rename_i line skipLF hScan
    have hRest : r.readLine.2 = (fill r.kept skipLF line r.reads).2 := by rw [readLine, hScan]
    rw [hLines, hRest]
    exact fill_none h

theorem readLine_cons {r : BufferedReader} {line : Text} {rest : List Text}
    (h : r.toCome = line :: rest) :
    r.readLine.1 = some line ∧ r.readLine.2.toCome = rest := by
  have hLines := r.readLine_toCome
  rw [h] at hLines
  cases hRead : r.readLine.1 with
  | none =>
    rw [readLine_none hRead] at h
    cases h
  | some next =>
    rw [hRead] at hLines
    obtain ⟨rfl, hRest⟩ := List.cons.inj hLines
    exact ⟨rfl, hRest.symm⟩

end BufferedReader
end LocalCall.Java
