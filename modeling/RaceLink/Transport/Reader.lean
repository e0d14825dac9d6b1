/-
# The reader of the serial transport

`_reader` takes the bytes of the serial port, in whatever pieces they come, through a small state
machine: a `0x00` opens a frame, the next byte that is not zero is its length, and the payload of
that length is dispatched.  The length state has no flag of its own: it is `need == 0`.

`reader_dispatches` says that the framing `_send_m2n` writes is read back: from a stream of framed
payloads, with noise in between, exactly the payloads are dispatched.
-/
import RaceLink.Lts.Transducer
import RaceLink.Transport.SendSlot

namespace RaceLink

open Lts

/-! ## 1. The state machine -/

/-- The local variables of `_reader`. -/
structure ReaderState where
  inFrame : Bool
  need : UInt8
  buf : List UInt8
  deriving DecidableEq

/-- `_reader` starts outside a frame. -/
def readerStart : ReaderState := ⟨false, 0, []⟩

/-- `_handle_frame(buf[0], buf[1:])`: a buffer is dispatched by its first byte. -/
def dispatched : List UInt8 → List GatewayFrame
  | [] => []
  | typeByte :: data => [⟨typeByte, data⟩]

/-- The body of the loop over the bytes of a chunk. -/
def readByte (s : ReaderState) (x : UInt8) : ReaderState × List GatewayFrame :=
  if s.inFrame = false then
    if x = 0x00 then (⟨true, 0, []⟩, []) else (s, [])
  else if s.need = 0 then ({ s with need := x }, [])
  else
    let buf := s.buf ++ [x]
    if buf.length = s.need.toNat then (⟨false, s.need, buf⟩, dispatched buf)
    else ({ s with buf := buf }, [])

/-- `_reader`: the state and the dispatched frames after the chunks that were read. -/
def reader (chunks : List (List UInt8)) : ReaderState × List GatewayFrame :=
  feedChunks readByte readerStart chunks

/-! ## 2. Framing -/

/-- The framing of a payload: `[0x00][LEN][payload]`. -/
def frameBytes (payload : List UInt8) : List UInt8 :=
  [0x00, UInt8.ofNat payload.length] ++ payload

/-- The payload a frame was dispatched from. -/
def GatewayFrame.payload (f : GatewayFrame) : List UInt8 := f.typeByte :: f.data

/-- A payload on its way: its framing, after a run of noise that may end in further zeros. -/
structure Framed where
  noise : List UInt8
  zeros : Nat
  payload : List UInt8
  noise_ne : ∀ x ∈ noise, x ≠ 0
  length_pos : 0 < payload.length
  length_le : payload.length ≤ 255

/-- Its bytes. -/
def Framed.bytes (f : Framed) : List UInt8 :=
  f.noise ++ List.replicate f.zeros 0 ++ frameBytes f.payload

theorem dispatched_payload {buf : List UInt8} (h : buf ≠ []) :
    (dispatched buf).map GatewayFrame.payload = [buf] := by
  cases buf with
  | nil => exact absurd rfl h
  | cons typeByte data => rfl

/-! ## 3. What the machine does with each part -/

theorem readByte_open {s : ReaderState} (h : s.inFrame = false) :
    readByte s 0 = (⟨true, 0, []⟩, []) := by
  simp [readByte, h]

/-- Noise outside a frame is skipped. -/
theorem feeds_noise {noise : List UInt8} (hne : ∀ x ∈ noise, x ≠ 0) {s : ReaderState}
    (h : s.inFrame = false) : Feeds readByte s noise s [] := by
  induction noise with
  | nil => exact Feeds.nil s
  | cons x noise ih =>
    have hx : readByte s x = (s, []) := by
      simp [readByte, h, hne x List.mem_cons_self]
    exact Feeds.cons hx (ih fun y hy => hne y (List.mem_cons_of_mem x hy))

/-- Where the length is expected a zero is swallowed: any number of zeros opens one frame. -/
theorem feeds_zeros (n : Nat) :
    Feeds readByte ⟨true, 0, []⟩ (List.replicate n 0) ⟨true, 0, []⟩ [] := by
  induction n with
  | zero => exact Feeds.nil _
  | succ n ih =>
    have hzero : readByte ⟨true, 0, []⟩ 0 = (⟨true, 0, []⟩, []) := rfl
    exact Feeds.cons hzero ih

/-- The bytes of a payload are collected until the length is reached, whatever they are. -/
theorem feeds_payload {need : UInt8} {buf rest : List UInt8} (hrest : rest ≠ [])
    (hlen : buf.length + rest.length = need.toNat) :
    Feeds readByte ⟨true, need, buf⟩ rest ⟨false, need, buf ++ rest⟩
      (dispatched (buf ++ rest)) := by
  -- `rest` is what is still to come: the length is reached at its last byte
  induction rest generalizing buf with
  | nil => exact absurd rfl hrest
  | cons x rest ih =>
    have hneed : need ≠ 0 := by
      rintro rfl
      simp at hlen
    cases rest with
    | nil =>
      have hlast : (buf ++ [x]).length = need.toNat := by simpa using hlen
      exact Feeds.single (by simp [readByte, hneed, ← hlast])
    | cons y rest =>
      have hmore : readByte ⟨true, need, buf⟩ x = (⟨true, need, buf ++ [x]⟩, []) := by
        have hshort : ¬ (buf ++ [x]).length = need.toNat := by
          simp only [List.length_append, List.length_cons, List.length_nil] at hlen ⊢
          omega
        simp only [readByte, Bool.true_eq_false, if_false, hneed, hshort]
      have hlen' : (buf ++ [x]).length + (y :: rest).length = need.toNat := by
        simp only [List.length_append, List.length_cons, List.length_nil] at hlen ⊢
        omega
      have hrest' := ih (List.cons_ne_nil y rest) hlen'
      rw [List.append_assoc, List.singleton_append] at hrest'
      exact Feeds.cons hmore hrest'

/-- **One framed payload** is dispatched, and the machine is outside a frame again. -/
theorem feeds_framed (f : Framed) {s : ReaderState} (h : s.inFrame = false) :
    ∃ t : ReaderState, t.inFrame = false ∧ Feeds readByte s f.bytes t (dispatched f.payload) := by
  have hne : f.payload ≠ [] := List.ne_nil_of_length_pos f.length_pos
  have hneed : (UInt8.ofNat f.payload.length).toNat = f.payload.length :=
    UInt8.toNat_ofNat_of_lt' (Nat.lt_succ_of_le f.length_le)
  refine ⟨⟨false, UInt8.ofNat f.payload.length, f.payload⟩, rfl, ?_⟩
  have hlength : readByte ⟨true, 0, []⟩ (UInt8.ofNat f.payload.length)
      = (⟨true, UInt8.ofNat f.payload.length, []⟩, []) := rfl
  have hpayload : Feeds readByte ⟨true, UInt8.ofNat f.payload.length, []⟩ f.payload
      ⟨false, UInt8.ofNat f.payload.length, [] ++ f.payload⟩ (dispatched ([] ++ f.payload)) :=
    feeds_payload hne (by simpa using hneed.symm)
  -- the zeros after the noise and the zero of the frame are one run of zeros
  have hzeros : Feeds readByte s (List.replicate f.zeros 0 ++ [0]) ⟨true, 0, []⟩ [] := by
    rw [← List.replicate_succ', List.replicate_succ]
    exact Feeds.cons (readByte_open h) (feeds_zeros f.zeros)
  have hall := ((feeds_noise f.noise_ne h).append hzeros).append (Feeds.cons hlength hpayload)
  simpa [Framed.bytes, frameBytes] using hall

/-! ## 4. The stream -/

/-- **What the reader dispatches.**  However the stream is cut into chunks, exactly the payloads
are dispatched, in order, each once, and the machine ends outside a frame. -/
theorem reader_dispatches (sent : List Framed) (chunks : List (List UInt8))
    (hchunks : chunks.flatten = sent.flatMap Framed.bytes) :
    (reader chunks).2.map GatewayFrame.payload = sent.map Framed.payload ∧
      (reader chunks).1.inFrame = false := by
  obtain ⟨t, ht, hfeeds⟩ := Feeds.flatMap (P := fun s : ReaderState => s.inFrame = false)
    (fun f s hs => feeds_framed f hs) sent (rfl : readerStart.inFrame = false)
  have hreader : reader chunks = (t, sent.flatMap fun f => dispatched f.payload) := by
    rw [reader, feedChunks_eq, hchunks]
    exact hfeeds
  have hpayloads : ∀ sent : List Framed,
      (sent.flatMap fun f => dispatched f.payload).map GatewayFrame.payload
        = sent.map Framed.payload := by
    intro sent
    induction sent with
    | nil => rfl
    | cons f sent ih =>
      have hne : f.payload ≠ [] := List.ne_nil_of_length_pos f.length_pos
      rw [List.flatMap_cons, List.map_append, dispatched_payload hne, ih]
      rfl
  rw [hreader]
  exact ⟨hpayloads sent, ht⟩

/-- A payload of zeros after noise that ends in a zero, and a second one, cut in the middle of
each. -/
theorem reader_dispatches_zeros :
    (reader [[7, 0, 0], [3, 0], [0, 2, 0, 1], [], [9]]).2.map GatewayFrame.payload
        = [[0, 0, 2], [9]] ∧
      (reader [[7, 0, 0], [3, 0], [0, 2, 0, 1], [], [9]]).1.inFrame = false :=
  reader_dispatches
    [⟨[7], 1, [0, 0, 2], by simp, by simp, by simp⟩, ⟨[], 0, [9], by simp, by simp, by simp⟩]
    [[7, 0, 0], [3, 0], [0, 2, 0, 1], [], [9]] rfl

end RaceLink
