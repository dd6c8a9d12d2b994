import HMaigc.Go.Basic
import Mathlib.Data.List.Infix

/-!
# The lines of a byte stream

`bufio.Scanner` with `bufio.ScanLines`, over a reader that hands out the stream in any pieces.

* `LineBuffer.feed` — the bytes read so far, one byte after another, so that how they were split
  into reads does not matter (`feed_append`).
* `lines` — the lines of a whole stream.
* `scan` — what the scanner hands on, and the error it ends with; `scan_lines` and `scan_prefix`
  compare it with the lines of what it has read (`arrived`).
-/

set_option autoImplicit false

namespace Go

abbrev Bytes := List UInt8

def lineFeed : UInt8 := 10

def carriageReturn : UInt8 := 13

/-- `bufio.dropCR`. -/
def dropCR (line : Bytes) : Bytes :=
  if line.getLast? = some carriageReturn then line.dropLast else line

/-- The lines that have ended, and what was read of the next one. -/
structure LineBuffer where
  ended : List Bytes := []
  rest : Bytes := []

namespace LineBuffer

def push (buffer : LineBuffer) (byte : UInt8) : LineBuffer :=
  if byte = lineFeed then ⟨buffer.ended ++ [dropCR buffer.rest], []⟩
  else { buffer with rest := buffer.rest ++ [byte] }

def feed (buffer : LineBuffer) (bytes : Bytes) : LineBuffer :=
  bytes.foldl push buffer

/-- The lines where the stream ends: the last one need not have ended. -/
def close (buffer : LineBuffer) : List Bytes :=
  if buffer.rest = [] then buffer.ended else buffer.ended ++ [dropCR buffer.rest]

/-- **How the bytes come does not matter.** -/
theorem feed_append (buffer : LineBuffer) (first second : Bytes) :
    buffer.feed (first ++ second) = (buffer.feed first).feed second :=
  List.foldl_append

theorem ended_prefix_close (buffer : LineBuffer) : buffer.ended <+: buffer.close := by
  rw [close]
  split
  · exact List.prefix_refl _
  · exact List.prefix_append _ _

end LineBuffer

/-- The lines of a stream. -/
def lines (bytes : Bytes) : List Bytes :=
  (LineBuffer.feed {} bytes).close

/-! ## The scanner -/

/-- What a call of `Read` returns.  At the end of the stream the error is `none`. -/
inductive Read
  | more (bytes : Bytes)
  | last (bytes : Bytes) (error : Option String)

inductive ScanError
  | tooLong | noProgress | read (error : String)
  deriving DecidableEq

structure Scanned where
  tokens : List Bytes
  error : Option ScanError

def maxConsecutiveEmptyReads : ℕ := 100

/-- The tokens of `bufio.Scanner`, and `Err()` after the last one.  Whatever ends the stream, an
error too, what is left of it is a last token; only a line that fills the whole buffer is given
up. -/
def scan (limit : ℕ) (buffer : LineBuffer) (empties : ℕ) : List Read → Scanned
  | [] => ⟨buffer.close, none⟩
  | .last bytes error :: _ => ⟨(buffer.feed bytes).close, error.map .read⟩
  | .more bytes :: reads =>
    if bytes = [] then
      if empties + 1 > maxConsecutiveEmptyReads then ⟨buffer.close, some .noProgress⟩
      else scan limit buffer (empties + 1) reads
    else if (buffer.feed bytes).rest.length ≥ limit then
      ⟨(buffer.feed bytes).ended, some .tooLong⟩
    else scan limit (buffer.feed bytes) 0 reads

/-- The bytes the scanner reads. -/
def arrived (limit : ℕ) (buffer : LineBuffer) (empties : ℕ) : List Read → Bytes
  | [] => []
  | .last bytes _ :: _ => bytes
  | .more bytes :: reads =>
    if bytes = [] then
      if empties + 1 > maxConsecutiveEmptyReads then []
      else arrived limit buffer (empties + 1) reads
    else if (buffer.feed bytes).rest.length ≥ limit then bytes
    else bytes ++ arrived limit (buffer.feed bytes) 0 reads

/-- The bytes the reader has to give. -/
def content : List Read → Bytes
  | [] => []
  | .last bytes _ :: _ => bytes
  | .more bytes :: reads => bytes ++ content reads

section

variable (limit : ℕ) (buffer : LineBuffer) (empties : ℕ) (reads : List Read)

theorem arrived_prefix : arrived limit buffer empties reads <+: content reads := by
  induction reads generalizing buffer empties with
  | nil => exact List.prefix_refl _
  | cons read reads ih =>
    cases read with
    | last bytes error => exact List.prefix_refl _
    | more bytes =>
      rw [arrived, content]
      split
      next hempty =>
        rw [hempty, List.nil_append]
        split
        · exact List.nil_prefix
        · exact ih buffer (empties + 1)
      next hsome =>
        split
        · exact List.prefix_append _ _
        · exact (List.prefix_append_right_inj bytes).mpr (ih _ 0)

/-- **The tokens are lines of what was read**: all of them, or, where the scanner gives up, the
first ones. -/
theorem scan_prefix : ∃ more, (LineBuffer.feed buffer (arrived limit buffer empties reads)).close =
      (scan limit buffer empties reads).tokens ++ more ∧
    ((scan limit buffer empties reads).error = none → more = []) := by
  induction reads generalizing buffer empties with
  | nil => exact ⟨[], by simp [scan, arrived, LineBuffer.feed], fun _ ↦ rfl⟩
  | cons read reads ih =>
    cases read with
    | last bytes error => exact ⟨[], by simp [scan, arrived], fun _ ↦ rfl⟩
    | more bytes =>
      rw [scan, arrived]
      split
      next hempty =>
        split
        · exact ⟨[], by simp [LineBuffer.feed], fun _ ↦ rfl⟩
        · exact ih buffer (empties + 1)
      next hsome =>
        split
        next hlong =>
          obtain ⟨more, hmore⟩ := (buffer.feed bytes).ended_prefix_close
          exact ⟨more, hmore.symm, nofun⟩
        next hshort =>
          rw [LineBuffer.feed_append]
          exact ih _ 0

end

/-! ## Trimming -/

/-- The encodings of the characters that `unicode.IsSpace` accepts. -/
def spaces : List Bytes :=
  [[9], [10], [11], [12], [13], [32], [0xC2, 0x85], [0xC2, 0xA0], [0xE1, 0x9A, 0x80],
    [0xE2, 0x80, 0xA8], [0xE2, 0x80, 0xA9], [0xE2, 0x80, 0xAF], [0xE2, 0x81, 0x9F],
    [0xE3, 0x80, 0x80]] ++
  [0x80, 0x81, 0x82, 0x83, 0x84, 0x85, 0x86, 0x87, 0x88, 0x89, 0x8A].map fun last ↦
    [0xE2, 0x80, last]

/-- The bytes without the encodings they begin with; `fuel` is at least their number. -/
def dropEncodings (encodings : List Bytes) : ℕ → Bytes → Bytes
  | 0, bytes => bytes
  | fuel + 1, bytes =>
    match encodings.find? (·.isPrefixOf bytes) with
    | some encoding => dropEncodings encodings fuel (bytes.drop encoding.length)
    | none => bytes

/-- `strings.TrimSpace`, on a string of any bytes. -/
def trimBytes (bytes : Bytes) : Bytes :=
  let left := dropEncodings spaces bytes.length bytes
  (dropEncodings (spaces.map List.reverse) left.length left.reverse).reverse

/-- The bytes of a text whose characters are all ASCII. -/
def ascii (text : String) : Bytes :=
  text.toList.map fun c ↦ c.toNat.toUInt8

end Go
